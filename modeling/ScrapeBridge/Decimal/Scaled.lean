namespace ScrapeBridge.Decimal

def powerOfTen (n : Nat) : Float := Float.ofScientific 1 false n

/-- `significand * 10 ^ exponent` for a significand of at most 64 bits; `none` if that is beyond the
range of doubles. A division by more than `10 ^ 308` is done in two steps, and by more than
`10 ^ 616` leaves nothing. -/
def scaled (significand : Nat) (exponent : Int) : Option Float :=
  let f := (UInt64.ofNat significand).toFloat
  if 0 ≤ exponent then
    if exponent ≤ 308 then
      let g := f * powerOfTen exponent.toNat
      if g.isInf then none else some g
    else if significand = 0 then some f
    else none
  else
    let n := (-exponent).toNat
    if n ≤ 308 then some (f / powerOfTen n)
    else if n ≤ 616 then some (f / powerOfTen 308 / powerOfTen (n - 308))
    else some 0

end ScrapeBridge.Decimal
