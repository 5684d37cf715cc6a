namespace ScrapeBridge.Utf8

structure Fault where
  validUpTo : Nat
  length : Option Nat
  deriving DecidableEq, Repr

def Fault.message : Fault → String
  | ⟨start, some n⟩ =>
    "invalid utf-8 sequence of " ++ toString n ++ " bytes from index " ++ toString start
  | ⟨start, none⟩ => "incomplete utf-8 byte sequence from index " ++ toString start

/-- A character that is not complete: the continuation bytes it still owes, the range of the next
one, and what has been read of it. -/
structure Pending where
  owed : Nat
  low : UInt8
  high : UInt8
  seen : Nat
  bits : Nat

/-- What a first byte announces. The ranges leave out overlong forms, surrogates and everything
past the last code point. -/
def lead (b : UInt8) : Option Pending :=
  if b < 0x80 then some ⟨0, 0x80, 0xBF, 1, b.toNat⟩
  else if b < 0xC2 then none
  else if b < 0xE0 then some ⟨1, 0x80, 0xBF, 1, b.toNat % 0x20⟩
  else if b < 0xF0 then
    some ⟨2, if b = 0xE0 then 0xA0 else 0x80, if b = 0xED then 0x9F else 0xBF, 1, b.toNat % 0x10⟩
  else if b < 0xF5 then
    some ⟨3, if b = 0xF0 then 0x90 else 0x80, if b = 0xF4 then 0x8F else 0xBF, 1, b.toNat % 8⟩
  else none

def decodeFrom (start : Nat) : Option Pending → List UInt8 → Except Fault (List Char)
  | none, [] => .ok []
  | some _, [] => .error ⟨start, none⟩
  | none, b :: bs =>
    match lead b with
    | none => .error ⟨start, some 1⟩
    | some p =>
      if p.owed = 0 then (Char.ofNat p.bits :: ·) <$> decodeFrom (start + 1) none bs
      else decodeFrom start (some p) bs
  | some p, b :: bs =>
    if p.low ≤ b ∧ b ≤ p.high then
      let bits := p.bits * 0x40 + b.toNat % 0x40
      if p.owed = 1 then (Char.ofNat bits :: ·) <$> decodeFrom (start + p.seen + 1) none bs
      else decodeFrom start (some ⟨p.owed - 1, 0x80, 0xBF, p.seen + 1, bits⟩) bs
    else .error ⟨start, some p.seen⟩

def decode (bytes : List UInt8) : Except Fault (List Char) :=
  decodeFrom 0 none bytes

end ScrapeBridge.Utf8
