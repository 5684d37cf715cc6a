import ScrapeBridge.Decimal.Scaled

namespace ScrapeBridge

namespace Json

structure Numeral where
  negative : Bool
  whole : List Nat
  fraction : List Nat
  exponent : Int
  deriving DecidableEq, Repr

end Json

/-- A document as it is written. Members stay in order and repeated, and a string that names no
text, because of half a surrogate pair, is kept as such. -/
inductive Json where
  | null
  | bool (b : Bool)
  | number (n : Json.Numeral)
  | string (s : Option String)
  | array (items : List Json)
  | object (members : List (Option String × Json))

namespace Json

/-- Appends digits to a significand as long as it fits 64 bits. Returns how many did not fit: all
from the first on that does not. -/
def appendDigits (significand : Nat) : List Nat → Nat × Nat
  | [] => (significand, 0)
  | d :: ds =>
    if significand * 10 + d < UInt64.size then appendDigits (significand * 10 + d) ds
    else (significand, ds.length + 1)

/-- The double that a numeral stands for, or `none` beyond the range of doubles. Of the digits
before and after the point each time the first ones count that fit the significand. -/
def Numeral.toFloat? (n : Numeral) : Option Float :=
  let (whole, more) := appendDigits 0 n.whole
  let (significand, unread) := appendDigits whole n.fraction
  let places := n.fraction.length - unread
  let sign (f : Float) := if n.negative then -f else f
  (Decimal.scaled significand (n.exponent + more - places)).map sign

/-- How deeply arrays and objects are nested. -/
def depth : Json → Nat
  | .array items => depthOfItems items + 1
  | .object members => depthOfMembers members + 1
  | _ => 0
where
  depthOfItems : List Json → Nat
    | [] => 0
    | j :: js => max (depth j) (depthOfItems js)
  depthOfMembers : List (Option String × Json) → Nat
    | [] => 0
    | (_, j) :: js => max (depth j) (depthOfMembers js)

def readable : Json → Bool
  | .number n => n.toFloat?.isSome
  | .string s => s.isSome
  | .array items => readableItems items
  | .object members => readableMembers members
  | _ => true
where
  readableItems : List Json → Bool
    | [] => true
    | j :: js => readable j && readableItems js
  readableMembers : List (Option String × Json) → Bool
    | [] => true
    | (k, j) :: js => k.isSome && readable j && readableMembers js

end Json

end ScrapeBridge
