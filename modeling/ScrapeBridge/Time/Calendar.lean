namespace ScrapeBridge.Time

/-- A date and a time of day. The second may be the sixtieth, which is the first of the next
minute. -/
structure Civil where
  year : Int
  month : Nat
  day : Nat
  hour : Nat
  minute : Nat
  second : Nat
  nanosecond : Nat

def isLeapYear (y : Int) : Bool := y % 4 = 0 && (y % 100 ≠ 0 || y % 400 = 0)

def daysInMonth (y : Int) (m : Nat) : Nat :=
  if m = 2 then if isLeapYear y then 29 else 28
  else if m = 4 ∨ m = 6 ∨ m = 9 ∨ m = 11 then 30
  else 31

/-- Days since the first of January 1970. The year is taken to begin in March, so that a leap day
is its last; four hundred years have 146097 days. -/
def dayNumber (year : Int) (month day : Nat) : Int :=
  let y := if month ≤ 2 then year - 1 else year
  let yearOfEra := y % 400
  let dayOfYear : Int := ((153 * ((month + 9) % 12) + 2) / 5 + day : Nat) - 1
  let dayOfEra := yearOfEra * 365 + yearOfEra / 4 - yearOfEra / 100 + dayOfYear
  y / 400 * 146097 + dayOfEra - 719468

def Civil.valid (c : Civil) : Bool :=
  -262143 ≤ c.year && c.year ≤ 262142 && 1 ≤ c.month && c.month ≤ 12 && 1 ≤ c.day &&
    c.day ≤ daysInMonth c.year c.month && c.hour < 24 && c.minute < 60 && c.second ≤ 60

def Civil.epochMs (c : Civil) (offset : Int) : Int :=
  let seconds := dayNumber c.year c.month c.day * 86400 +
    ((c.hour * 60 + c.minute) * 60 + c.second : Nat) - offset
  seconds * 1000 + (c.nanosecond / 1000000 : Nat)

end ScrapeBridge.Time
