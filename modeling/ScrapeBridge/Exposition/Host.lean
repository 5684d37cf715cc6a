import ScrapeBridge.Text.Digits
import ScrapeBridge.Text.Pieces

namespace ScrapeBridge.Host

open Text

/-- A number in decimal, in octal after a zero, or in hexadecimal after `0x`. -/
def number? : List Char → Option Nat
  | ['0'] => some 0
  | '0' :: 'x' :: rest => natural? 16 rest
  | '0' :: 'X' :: rest => natural? 16 rest
  | '0' :: rest => natural? 8 rest
  | s => natural? 10 s

def bytes? : Nat → Nat → Option (List Nat)
  | 0, n => if n = 0 then some [] else none
  | count + 1, n => (bytes? count (n / 256)).map (· ++ [n % 256])

/-- The bytes of an address from its numbers: each is one byte, but the last one is all that are
missing of `count`. -/
def bytesOf? : Nat → List Nat → Option (List Nat)
  | 0, _ => none
  | _, [] => none
  | count, [n] => bytes? count n
  | count + 1, n :: rest => if n < 256 then (bytesOf? count rest).map (n :: ·) else none

def bytesOfText? (s : List Char) : Option (List Nat) := do
  let (first, others) := pieces '.' s
  bytesOf? 4 (← (first :: others).mapM number?)

/-- One of the four bytes of an address in their plain form: decimal, without leading zeros. -/
def plainByte? (s : List Char) : Option Nat := do
  if s.head? = some '0' ∧ s ≠ ['0'] then failure
  let n ← natural? 10 s
  if n < 256 then return n else failure

def plainGroups? (s : List Char) : Option (List Nat) := do
  let (first, others) := pieces '.' s
  match ← (first :: others).mapM plainByte? with
  | [a, b, c, d] => return [a * 256 + b, c * 256 + d]
  | _ => failure

def group? (s : List Char) : Option Nat := if s.length ≤ 4 then natural? 16 s else none

def groups? (s : List Char) : Option (List Nat) :=
  let (first, others) := pieces ':' s
  (first :: others).mapM group?

def lastGroups? (s : List Char) : Option (List Nat) :=
  let (tail, front) := cutLast ':' s
  match plainGroups? tail with
  | some two => (front.elim (some []) groups?).map (· ++ two)
  | none => groups? s

def side? (read : List Char → Option (List Nat)) (s : List Char) : Option (List Nat) :=
  if s.isEmpty then some [] else read s

/-- An address of version 6: eight groups. Two colons stand for groups that are zero, at least
one. -/
def groupsOfText? (s : List Char) : Option (List Nat) := do
  match cut? [':', ':'] s with
  | some (before, after) =>
    let front ← side? groups? before
    let back ← side? lastGroups? after
    let missing := 8 - (front.length + back.length)
    if missing = 0 then failure
    return front ++ List.replicate missing 0 ++ back
  | none =>
    let all ← lastGroups? s
    if all.length = 8 then return all else failure

def textOfBytes (bytes : List Nat) : String := ".".intercalate (bytes.map toString)

/-- The text of an address of version 6 that somebody can listen at: the one for every interface,
and those that stand for an address of four bytes. -/
def textOfGroups? (groups : List Nat) : Option String :=
  match groups with
  | [0, 0, 0, 0, 0, 0xFFFF, a, b] =>
    some ("::ffff:" ++ textOfBytes [a / 256, a % 256, b / 256, b % 256])
  | _ => if groups.all (· = 0) then some "::" else none

def unscoped? (s : List Char) : Option (List Char) :=
  match cut? ['%'] s with
  | some (address, scope) => do
    let n ← natural? 10 scope
    if n < UInt32.size then return address else failure
  | none => some s

def listenable6? (s : List Char) : Option String := do
  textOfGroups? (← groupsOfText? (← unscoped? s))

def listenable? (s : List Char) : Option String :=
  if s.map Char.toLower = "localhost".toList then some "127.0.0.1"
  else ((bytesOfText? s).map textOfBytes).or (listenable6? s)

end ScrapeBridge.Host
