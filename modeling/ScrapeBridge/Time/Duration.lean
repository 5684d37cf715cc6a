import ScrapeBridge.Text.Blank
import ScrapeBridge.Text.Digits

namespace ScrapeBridge

structure Duration where
  nanoseconds : Nat
  deriving DecidableEq, Repr

namespace Duration

def perSecond : Nat := 1000000000

def ofSeconds (n : Nat) : Duration := ⟨n * perSecond⟩

def ofMilliseconds (n : Nat) : Duration := ⟨n * 1000000⟩

def seconds (d : Duration) : Nat := d.nanoseconds / perSecond

def subsecond (d : Duration) : Nat := d.nanoseconds % perSecond

def isZero (d : Duration) : Bool := d.nanoseconds = 0

structure TimeUnit where
  names : List String
  inSeconds : Bool
  size : Nat

/-- A month is a twelfth of a year to the nearest 24 seconds, and a year has 365.25 days. -/
def units : List TimeUnit := [
  ⟨["nanos", "nsec", "ns"], false, 1⟩,
  ⟨["usec", "us", "\u00B5s"], false, 1000⟩,
  ⟨["millis", "msec", "ms"], false, 1000000⟩,
  ⟨["seconds", "second", "secs", "sec", "s"], true, 1⟩,
  ⟨["minutes", "minute", "mins", "min", "m"], true, 60⟩,
  ⟨["hours", "hour", "hrs", "hr", "h"], true, 3600⟩,
  ⟨["days", "day", "d"], true, 86400⟩,
  ⟨["weeks", "week", "wks", "wk", "w"], true, 604800⟩,
  ⟨["months", "month", "M"], true, 2630016⟩,
  ⟨["years", "year", "yrs", "yr", "y"], true, 31557600⟩]

def unit? (name : String) : Option TimeUnit := units.find? (·.names.contains name)

inductive Fault where
  | malformed
  /-- Parts of seconds make up a whole one that no longer fits. -/
  | overflow
  deriving DecidableEq, Repr

def word (n : Nat) : Except Fault Nat := if n < UInt64.size then .ok n else .error .malformed

def add (d : Duration) (seconds nanoseconds : Nat) : Except Fault Duration := do
  let parts ← word (d.subsecond + nanoseconds)
  let whole ← word (d.seconds + seconds)
  if parts = perSecond ∧ whole + 1 = UInt64.size then throw .overflow
  discard <| word (whole + parts / perSecond)
  return ⟨whole * perSecond + parts⟩

def addUnits (d : Duration) (n : Nat) (u : TimeUnit) : Except Fault Duration := do
  let n ← word (n * u.size)
  if u.inSeconds then d.add n 0 else d.add 0 n

structure Fraction where
  numerator : Nat
  denominator : Nat

def Fraction.ofDigits (digits : List Nat) : Except Fault Fraction := do
  if digits.isEmpty then throw .malformed
  return ⟨← word (Text.ofDigits 10 digits), ← word (Nat.pow 10 digits.length)⟩

/-- Adds a fraction of a unit that comes out even: in nanoseconds for units of up to a minute, in
seconds for longer ones. Nanoseconds have no fractions. -/
def addFraction (d : Duration) (f : Fraction) (u : TimeUnit) : Except Fault Duration := do
  if !u.inSeconds ∧ u.size = 1 then throw .malformed
  let fine := !u.inSeconds || u.size ≤ 60
  let scale := if u.inSeconds ∧ fine then u.size * perSecond else u.size
  let n ← word (f.numerator * scale)
  if n % f.denominator ≠ 0 then throw .malformed
  if fine then d.add 0 (n / f.denominator) else d.add (n / f.denominator) 0

def spacedDigits (s : List Char) : List Nat × List Char :=
  let p (c : Char) := c.isDigit || Text.isBlank c
  ((s.takeWhile p).filterMap Text.digit?, s.dropWhile p)

def isUnitChar (c : Char) : Bool := c.isAlpha || c = '\u00B5'

def fraction (s : List Char) : Except Fault (Option Fraction × List Char) :=
  match s with
  | '.' :: rest => do
    let (ds, rest) := spacedDigits rest
    return (some (← Fraction.ofDigits ds), rest)
  | rest => .ok (none, rest)

def addItem (d : Duration) (s : List Char) : Except Fault (Duration × List Char) := do
  let (whole, rest) := spacedDigits s
  let n ← word (Text.ofDigits 10 whole)
  let (fraction, rest) ← fraction rest
  let some u := unit? (String.ofList (rest.takeWhile isUnitChar)) | throw .malformed
  let rest := rest.dropWhile isUnitChar
  if !(rest.head?.all fun c => c.isDigit || Text.isBlank c) then throw .malformed
  let d ← d.addUnits n u
  match fraction with
  | none => return (d, rest)
  | some f => return (← d.addFraction f u, rest)

def addItems (fuel : Nat) (d : Duration) (s : List Char) : Except Fault Duration :=
  match fuel with
  | 0 => .error .malformed
  | fuel + 1 =>
    match s.dropWhile Text.isBlank with
    | [] => .ok d
    | c :: rest => do
      if !c.isDigit then throw .malformed
      let (d, rest) ← d.addItem (c :: rest)
      addItems fuel d rest

def parse (s : String) : Except Fault Duration :=
  if s = "0" then .ok ⟨0⟩
  else if s.toList.all Text.isBlank then .error .malformed
  else addItems (s.length + 1) ⟨0⟩ s.toList

end Duration

end ScrapeBridge
