import ScrapeBridge.Decimal.Shortest

namespace ScrapeBridge.Decimal

def positional (digits : List Char) (exponent : Int) : List Char :=
  if 0 ≤ exponent then digits ++ List.replicate exponent.toNat '0'
  else
    let places := (-exponent).toNat
    let padded := List.replicate (places + 1 - digits.length) '0' ++ digits
    padded.take (padded.length - places) ++ '.' :: padded.drop (padded.length - places)

def magnitudeText (bits : Nat) : List Char :=
  if bits = 0 then ['0']
  else
    let (digits, exponent) := (Span.ofBits bits).shortest
    positional (Nat.toDigits 10 digits) exponent

end ScrapeBridge.Decimal

namespace ScrapeBridge

def floatText (x : Float) : String :=
  if x.isNaN then "NaN"
  else
    let bits := x.toBits.toNat
    let sign := if bits < Nat.pow 2 63 then "" else "-"
    if x.isInf then sign ++ "inf"
    else sign ++ String.ofList (Decimal.magnitudeText (bits % Nat.pow 2 63))

end ScrapeBridge
