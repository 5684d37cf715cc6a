import ScrapeBridge.Text.Blank
import ScrapeBridge.Text.Digits
import ScrapeBridge.Time.Calendar

namespace ScrapeBridge.Time

open Text

abbrev Reader := StateT (List Char) Option

def one (p : Char → Bool) : Reader Char
  | c :: rest => if p c then some (c, rest) else none
  | [] => none

def upTo (width : Nat) : Reader Nat := fun s =>
  let ds := (digits (s.take width)).1
  if ds.isEmpty then none else some (ofDigits 10 ds, s.drop ds.length)

def exactly (width : Nat) : Reader Nat := fun s =>
  let ds := (digits (s.take width)).1
  if ds.length = width then some (ofDigits 10 ds, s.drop width) else none

def skipBlanks : Reader Unit := fun s => some ((), s.dropWhile isBlank)

/-- Nanoseconds of a fraction after a point, if there is one. Digits after the ninth are dropped. -/
def fraction : Reader Nat := fun s =>
  match s with
  | '.' :: rest =>
    let (ds, rest) := digits rest
    if ds.isEmpty then none
    else
      let kept := ds.take 9
      some (ofDigits 10 kept * Nat.pow 10 (9 - kept.length), rest)
  | s => some (0, s)

def offset : Reader Int := fun s =>
  match s with
  | c :: rest =>
    if c = 'Z' ∨ c = 'z' then some (0, rest)
    else if c = '+' ∨ c = '-' ∨ c = '\u2212' then
      (do
        let hours ← exactly 2
        discard <| one (· = ':')
        let minutes ← exactly 2
        if hours < 24 ∧ minutes < 60 then
          let seconds : Int := ((hours * 60 + minutes) * 60 : Nat)
          return if c = '+' then seconds else -seconds
        else failure : Reader Int) rest
    else none
  | [] => none

def strictForm : Reader Int := do
  let year ← exactly 4
  discard <| one (· = '-')
  let month ← exactly 2
  discard <| one (· = '-')
  let day ← exactly 2
  discard <| one fun c => c = 'T' || c = 't' || c = ' '
  let hour ← exactly 2
  discard <| one (· = ':')
  let minute ← exactly 2
  discard <| one (· = ':')
  let second ← exactly 2
  let nanosecond ← fraction
  let ahead ← offset
  let civil : Civil := ⟨year, month, day, hour, minute, second, nanosecond⟩
  if civil.valid then return civil.epochMs ahead else failure

def looseYear : Reader Int := do
  skipBlanks
  fun s =>
    match s with
    | '-' :: rest => (upTo rest.length rest).map fun (n, rest) => (-(n : Int), rest)
    | '+' :: rest => (upTo rest.length rest).map fun (n, rest) => ((n : Int), rest)
    | s => (upTo 4 s).map fun (n, rest) => ((n : Int), rest)

def looseField : Reader Nat := do
  skipBlanks
  upTo 2

/-- Fields may lack leading zeros and follow blanks. `separator` stands between date and time. -/
def looseForm (separator : Reader Unit) : Reader Int := do
  let year ← looseYear
  discard <| one (· = '-')
  let month ← looseField
  discard <| one (· = '-')
  let day ← looseField
  separator
  let hour ← looseField
  discard <| one (· = ':')
  let minute ← looseField
  discard <| one (· = ':')
  let second ← looseField
  let nanosecond ← fraction
  let civil : Civil := ⟨year, month, day, hour, minute, second, nanosecond⟩
  if civil.valid then return civil.epochMs 0 else failure

def whole? (r : Reader α) (s : List Char) : Option α := do
  let (a, rest) ← r s
  if rest.isEmpty then some a else none

/-- Milliseconds since the epoch. Forms without an offset are taken as universal time. -/
def timestamp? (s : String) : Option Int :=
  let s := s.toList
  (whole? strictForm s).or <|
    (whole? (looseForm (discard <| one (· = 'T'))) s).or (whole? (looseForm skipBlanks) s)

end ScrapeBridge.Time
