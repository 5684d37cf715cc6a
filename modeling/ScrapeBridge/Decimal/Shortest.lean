namespace ScrapeBridge.Decimal

/-- The reals that round to one positive double, as multiples of `2 ^ unit`: the double itself and
the two points halfway to its neighbours. -/
structure Span where
  low : Nat
  value : Nat
  high : Nat
  unit : Int
  closed : Bool

/-- The span of the double with these bits, which are those of a finite positive number. Just above
a power of two the neighbour below is twice as near. -/
def Span.ofBits (bits : Nat) : Span :=
  let mantissa := bits % Nat.pow 2 52
  let exponent := bits / Nat.pow 2 52
  let m := if exponent = 0 then mantissa else Nat.pow 2 52 + mantissa
  { low := 4 * m - (if mantissa = 0 ∧ 1 < exponent then 1 else 2)
    value := 4 * m
    high := 4 * m + 2
    unit := (exponent.max 1 : Int) - 1077
    closed := m % 2 = 0 }

def Span.onGrid (s : Span) (k : Int) : Option Nat :=
  let step := Nat.pow 10 k.toNat * Nat.pow 2 (-s.unit).toNat
  let scale := Nat.pow 2 s.unit.toNat * Nat.pow 10 (-k).toNat
  let inside (n : Nat) : Bool :=
    if s.closed then s.low * scale ≤ n * step && n * step ≤ s.high * scale
    else s.low * scale < n * step && n * step < s.high * scale
  let n := s.value * scale / step
  match inside n, inside (n + 1) with
  | true, true => some (if 2 * (s.value * scale - n * step) < step then n else n + 1)
  | true, false => some n
  | false, true => some (n + 1)
  | false, false => none

def Span.magnitude (s : Span) : Int :=
  ((Nat.log2 s.value : Int) + s.unit) * 30103 / 100000 + 2

/-- Digits and exponent: the coarsest of the grids of powers of ten that meets the span. Nineteen
grids below the magnitude always do; the last line gives the exact value. -/
def Span.shortest (s : Span) : Nat × Int :=
  ((List.range 20).findSome? fun (i : Nat) =>
    let k := s.magnitude - i
    (s.onGrid k).map (·, k)).getD
    (s.value * Nat.pow 2 s.unit.toNat * Nat.pow 5 (-s.unit).toNat, min s.unit 0)

end ScrapeBridge.Decimal
