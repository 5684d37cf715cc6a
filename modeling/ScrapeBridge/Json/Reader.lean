import ScrapeBridge.Json.Basic
import ScrapeBridge.Text.Digits

namespace ScrapeBridge.Json

open Text

def isSpace (c : Char) : Bool :=
  c = ' ' || c = '\n' || c = '\t' || c = '\r'

def skipSpace (s : List Char) : List Char := s.dropWhile isSpace

def shortEscape? (c : Char) : Option Char :=
  match c with
  | '"' => some '"'
  | '\\' => some '\\'
  | '/' => some '/'
  | 'b' => some '\x08'
  | 'f' => some '\x0c'
  | 'n' => some '\n'
  | 'r' => some '\r'
  | 't' => some '\t'
  | _ => none

def unitOf? (a b c d : Char) : Option Nat := do
  let a ← hexDigit? a
  let b ← hexDigit? b
  let c ← hexDigit? c
  let d ← hexDigit? d
  return ((a * 16 + b) * 16 + c) * 16 + d

/-- The code units of a string up to its closing quote, and what follows the quote. A character is
one unit whatever its size, and an escape may give half a surrogate pair. -/
def units : List Char → Option (List Nat × List Char)
  | '"' :: rest => some ([], rest)
  | '\\' :: 'u' :: a :: b :: c :: d :: rest => do
    let u ← unitOf? a b c d
    let (us, rest) ← units rest
    return (u :: us, rest)
  | '\\' :: c :: rest => do
    let e ← shortEscape? c
    let (us, rest) ← units rest
    return (e.toNat :: us, rest)
  | c :: rest =>
    if c.toNat < 0x20 ∨ c = '\\' then none
    else do
      let (us, rest) ← units rest
      return (c.toNat :: us, rest)
  | [] => none

def isHighSurrogate (u : Nat) : Bool := 0xD800 ≤ u && u < 0xDC00

def isLowSurrogate (u : Nat) : Bool := 0xDC00 ≤ u && u < 0xE000

def joinUnits : List Nat → Option (List Char)
  | [] => some []
  | [u] => if isHighSurrogate u || isLowSurrogate u then none else some [Char.ofNat u]
  | u :: v :: us =>
    if isHighSurrogate u then
      if isLowSurrogate v then
        (Char.ofNat ((u - 0xD800) * 0x400 + (v - 0xDC00) + 0x10000) :: ·) <$> joinUnits us
      else none
    else if isLowSurrogate u then none
    else (Char.ofNat u :: ·) <$> joinUnits (v :: us)

def stringBody (s : List Char) : Option (Option String × List Char) := do
  let (us, rest) ← units s
  return ((joinUnits us).map String.ofList, rest)

def someDigits (s : List Char) : Option (List Nat × List Char) :=
  match digits s with
  | ([], _) => none
  | result => some result

def wholePart (s : List Char) : Option (List Nat × List Char) := do
  let (ds, rest) ← someDigits s
  if ds.head? = some 0 ∧ 1 < ds.length then none else some (ds, rest)

def fractionPart : List Char → Option (List Nat × List Char)
  | '.' :: rest => someDigits rest
  | s => some ([], s)

def exponentPart : List Char → Option (Int × List Char)
  | c :: rest =>
    if c = 'e' ∨ c = 'E' then
      match rest with
      | '-' :: rest => (someDigits rest).map fun (ds, rest) => (-(ofDigits 10 ds : Int), rest)
      | '+' :: rest => (someDigits rest).map fun (ds, rest) => ((ofDigits 10 ds : Int), rest)
      | _ => (someDigits rest).map fun (ds, rest) => ((ofDigits 10 ds : Int), rest)
    else some (0, c :: rest)
  | [] => some (0, [])

def numeral (negative : Bool) (s : List Char) : Option (Numeral × List Char) := do
  let (whole, rest) ← wholePart s
  let (fraction, rest) ← fractionPart rest
  let (exponent, rest) ← exponentPart rest
  return (⟨negative, whole, fraction, exponent⟩, rest)

def after? (word : List Char) (s : List Char) : Option (List Char) :=
  match word, s with
  | [], s => some s
  | w :: ws, c :: cs => if w = c then after? ws cs else none
  | _ :: _, [] => none

mutual

/-- A value at the start of a text and what follows it. `fuel` bounds the nesting of calls; the
length of the text is enough, since every call is made on a shorter rest. -/
def value (fuel : Nat) (s : List Char) : Option (Json × List Char) :=
  match fuel with
  | 0 => none
  | fuel + 1 =>
    match skipSpace s with
    | 'n' :: rest => (after? ['u', 'l', 'l'] rest).map (Json.null, ·)
    | 't' :: rest => (after? ['r', 'u', 'e'] rest).map (Json.bool true, ·)
    | 'f' :: rest => (after? ['a', 'l', 's', 'e'] rest).map (Json.bool false, ·)
    | '"' :: rest => (stringBody rest).map fun (t, rest) => (.string t, rest)
    | '-' :: rest => (numeral true rest).map fun (n, rest) => (.number n, rest)
    | '[' :: rest =>
      match skipSpace rest with
      | ']' :: rest => some (.array [], rest)
      | rest => (items fuel rest).map fun (js, rest) => (.array js, rest)
    | '\x7b' :: rest =>
      match skipSpace rest with
      | '\x7d' :: rest => some (.object [], rest)
      | rest => (members fuel rest).map fun (ms, rest) => (.object ms, rest)
    | rest => (numeral false rest).map fun (n, rest) => (.number n, rest)

def items (fuel : Nat) (s : List Char) : Option (List Json × List Char) :=
  match fuel with
  | 0 => none
  | fuel + 1 => do
    let (j, rest) ← value fuel s
    match skipSpace rest with
    | ']' :: rest => return ([j], rest)
    | ',' :: rest =>
      let (js, rest) ← items fuel rest
      return (j :: js, rest)
    | _ => none

def members (fuel : Nat) (s : List Char) : Option (List (Option String × Json) × List Char) :=
  match fuel with
  | 0 => none
  | fuel + 1 => do
    match skipSpace s with
    | '"' :: rest =>
      let (key, rest) ← stringBody rest
      match skipSpace rest with
      | ':' :: rest =>
        let (j, rest) ← value fuel rest
        match skipSpace rest with
        | '\x7d' :: rest => return ([(key, j)], rest)
        | ',' :: rest =>
          let (ms, rest) ← members fuel rest
          return ((key, j) :: ms, rest)
        | _ => none
      | _ => none
    | _ => none

end

def read (s : List Char) : Option Json := do
  let (j, rest) ← value (s.length + 1) s
  if (skipSpace rest).isEmpty then some j else none

end ScrapeBridge.Json
