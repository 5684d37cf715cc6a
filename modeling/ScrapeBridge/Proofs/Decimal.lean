import ScrapeBridge.Message
import ScrapeBridge.Proofs.Counting
import ScrapeBridge.Proofs.Json.Record

namespace ScrapeBridge

open Float.Model (Format UnpackedFloat)
open Float.Model.UnpackedFloat

/-- A float that is not the one that stands for no number. -/
def IsNumber (x : Float) : Prop := x.toModel.unpack ≠ .notANumber

def HasDigits (x : Float) : Prop := ∃ s m e hm, x.toModel.unpack = .finite s m e hm

section

variable {u v : UnpackedFloat} {x y : Float}

theorem unpack_ne {b : BitVec Format.binary64.numBits}
    (h : unpackExponent b = -1#_ → unpackMantissa b = 0#_) :
    unpack Format.binary64 b ≠ .notANumber := by
  unfold unpack
  dsimp only
  by_cases hlargest : unpackExponent b = -1#_
  · rw [if_pos hlargest, if_pos (h hlargest)]
    exact UnpackedFloat.noConfusion
  · rw [if_neg hlargest]
    by_cases hsmallest : unpackExponent b = 0#_
    · rw [if_pos hsmallest]
      by_cases hmantissa : unpackMantissa b = 0#_
      · rw [dif_pos hmantissa]
        exact UnpackedFloat.noConfusion
      · rw [dif_neg hmantissa]
        exact UnpackedFloat.noConfusion
    · rw [if_neg hsmallest]
      exact UnpackedFloat.noConfusion

theorem unpack_packComponents_ne {s : Sign} {exponent : BitVec Format.binary64.exponentBits}
    {mantissa : BitVec Format.binary64.mantissaBitsWithoutImplicit}
    (h : exponent = -1#_ → mantissa = 0#_) :
    unpack Format.binary64 (packComponents Format.binary64 s exponent mantissa) ≠ .notANumber := by
  apply unpack_ne
  rw [unpackExponent_packComponents, unpackMantissa_packComponents]
  exact h

theorem unpack_pack_ne (hu : u ≠ .notANumber) :
    unpack Format.binary64 (pack Format.binary64 u) ≠ .notANumber := by
  cases u with
  | notANumber => exact absurd rfl hu
  | infinity s => exact unpack_packComponents_ne fun _ => rfl
  | zero s => exact unpack_packComponents_ne fun _ => rfl
  | finite s m e hm =>
    rw [Scrape.pack_finite]
    split
    case isTrue => exact unpack_packComponents_ne fun _ => rfl
    case isFalse hfits =>
      split
      case isTrue =>
        apply unpack_packComponents_ne
        intro hexponent
        have hbits := congrArg BitVec.toNat hexponent
        rw [BitVec.toNat_ofNat] at hbits
        change _ % 2048 = 2047 at hbits
        omega
      case isFalse => exact unpack_packComponents_ne fun hexponent => by simp at hexponent

theorem roundWithAccuracy_ne (s : Sign) (m : Nat) (e : Int) (accuracy : Accuracy) :
    roundWithAccuracy Format.binary64 s m e accuracy ≠ .notANumber := by
  rcases hfirst : shiftToTargetExponent Format.binary64 m e accuracy with ⟨x, e₁⟩
  rcases hagain : shiftToTargetExponent Format.binary64 x.roundedMantissa e₁ .exact with ⟨y, e₂⟩
  rw [roundWithAccuracy, hfirst]
  dsimp only
  rw [hagain]
  dsimp only
  by_cases hzero : y.mantissa = 0
  · rw [dif_pos hzero]
    exact UnpackedFloat.noConfusion
  · rw [dif_neg hzero]
    exact UnpackedFloat.noConfusion

theorem IsNumber.mul (hx : IsNumber x) (hy : HasDigits y) : IsNumber (x * y) := by
  obtain ⟨s, m, e, hm, hy⟩ := hy
  apply unpack_pack_ne
  rw [hy]
  unfold IsNumber at hx
  cases hu : x.toModel.unpack with
  | notANumber => exact absurd hu hx
  | infinity s' => exact UnpackedFloat.noConfusion
  | zero s' => exact UnpackedFloat.noConfusion
  | finite s' m' e' hm' => exact roundWithAccuracy_ne _ _ _ _

theorem IsNumber.div (hx : IsNumber x) (hy : HasDigits y) : IsNumber (x / y) := by
  obtain ⟨s, m, e, hm, hy⟩ := hy
  apply unpack_pack_ne
  rw [hy]
  unfold IsNumber at hx
  cases hu : x.toModel.unpack with
  | notANumber => exact absurd hu hx
  | infinity s' => exact UnpackedFloat.noConfusion
  | zero s' => exact UnpackedFloat.noConfusion
  | finite s' m' e' hm' => exact roundWithAccuracy_ne _ _ _ _

theorem IsNumber.neg (hx : IsNumber x) : IsNumber (-x) := by
  apply unpack_pack_ne
  unfold IsNumber at hx
  cases hu : x.toModel.unpack with
  | notANumber => exact absurd hu hx
  | infinity s => exact UnpackedFloat.noConfusion
  | zero s => exact UnpackedFloat.noConfusion
  | finite s m e hm => exact UnpackedFloat.noConfusion

theorem isNumber_zero : IsNumber 0 := UnpackedFloat.noConfusion

theorem isNumber_five : IsNumber 5 := UnpackedFloat.noConfusion

theorem isNumber_toFloat (n : UInt64) : IsNumber n.toFloat := by
  unfold IsNumber
  rcases Nat.eq_zero_or_pos n.toNat with hn | hn
  · obtain rfl : n = 0 := UInt64.toNat_inj.mp hn
    exact UnpackedFloat.noConfusion
  · obtain ⟨m, e, hm, hunpack⟩ := Scrape.exists_unpack_count hn n.toNat_lt
    rw [Scrape.count, UInt64.ofNat_toNat] at hunpack
    rw [hunpack]
    exact UnpackedFloat.noConfusion

end

namespace Decimal

theorem powerOfTen_eq {n : Nat} (h₀ : 22 < n) (h₁ : n ≤ 308) : powerOfTen n =
    .ofModel (Float.Model.pack (roundWithAccuracy Format.binary64 .positive (10 ^ n * 2 ^ 53) (-53)
      .exact)) := by
  have htable : ¬ ((1 : Nat) < 2 ^ 53 ∧ n ≤ 22) := by omega
  have hhigh : ¬ (n : Int) > 2 ^ Format.binary64.exponentBits := by
    change ¬ (n : Int) > 2048
    omega
  have hlow : ¬ (n : Int) < -(2 ^ Format.binary64.exponentBits + (Nat.log2 1 : Int)) := by
    change ¬ (n : Int) < -(2048 + 0)
    omega
  rw [powerOfTen, Float.ofScientific, dif_neg htable]
  change Float.ofModel (Float.Model.ofScientific 1 (n : Int)) = _
  rw [Float.Model.ofScientific, UnpackedFloat.ofScientific, dif_neg Nat.one_ne_zero, if_neg hhigh,
    if_neg hlow, if_pos (Int.natCast_nonneg n), Nat.mul_comm]
  rfl

theorem hasDigits_powerOfTen {n : Nat} (hn : n ≤ 308) : HasDigits (powerOfTen n) := by
  have hends : ∀ n ∈ 308 :: List.range 23,
      ((powerOfTen n).toModel.unpack matches .finite ..) = true := by decide +kernel
  by_cases hmem : n ∈ 308 :: List.range 23
  · have hdigits := hends n hmem
    split at hdigits
    case h_1 s m e hm hunpack => exact ⟨s, m, e, hm, hunpack⟩
    case h_2 => cases hdigits
  · rw [List.mem_cons, List.mem_range, not_or] at hmem
    have hbound : (10 : Nat) ^ n < 2 ^ 1023 :=
      (Nat.pow_le_pow_right (by omega) (by omega : n ≤ 307)).trans_lt (by decide +kernel)
    have hlong : (2 : Nat) ^ 53 ≤ 10 ^ n :=
      (by decide +kernel : (2 : Nat) ^ 53 ≤ 10 ^ 22).trans
        (Nat.pow_le_pow_right (by omega) (by omega))
    obtain ⟨m, e, hm, hm₀, hm₁, he₀, he₁, hround⟩ :=
      Scrape.exists_roundWithAccuracy_of_long hlong hbound 53
    refine ⟨.positive, m, e, hm, ?_⟩
    rw [powerOfTen_eq (by omega) hn]
    exact (congrArg (fun u => unpack Format.binary64 (pack Format.binary64 u)) hround).trans
      (Scrape.unpack_pack hm₀ hm₁ (by omega) (by omega))

theorem isNumber_of_scaled {significand : Nat} {exponent : Int} {x : Float}
    (h : scaled significand exponent = some x) : IsNumber x := by
  have hsignificand := isNumber_toFloat (UInt64.ofNat significand)
  unfold scaled at h
  dsimp only at h
  split at h
  case isTrue =>
    split at h
    case isTrue hexponent =>
      split at h <;> cases h
      exact hsignificand.mul (hasDigits_powerOfTen (by omega))
    case isFalse =>
      split at h <;> cases h
      exact hsignificand
  case isFalse =>
    split at h
    case isTrue hplaces =>
      cases h
      exact hsignificand.div (hasDigits_powerOfTen hplaces)
    case isFalse =>
      split at h <;> cases h
      · exact (hsignificand.div (hasDigits_powerOfTen (Nat.le_refl 308))).div
          (hasDigits_powerOfTen (by omega))
      · exact isNumber_zero

end Decimal

theorem Json.isNumber_of_float? {j : Json} {x : Float} (h : j.float? = some x) : IsNumber x := by
  unfold float? at h
  split at h
  case h_1 n =>
    obtain ⟨y, hy, rfl⟩ := Option.map_eq_some_iff.mp h
    have hnumber := Decimal.isNumber_of_scaled hy
    split
    · exact hnumber.neg
    · exact hnumber
  case h_2 => cases h

theorem Collectd.isNumber_interval {j : Json} {v : ValueList} (h : ValueList.ofJson? j = some v) :
    IsNumber v.interval := by
  unfold ValueList.ofJson? at h
  simp only [Option.bind_eq_bind, Option.bind_eq_some_iff] at h
  obtain ⟨fields, hfields, h⟩ := h
  split at h
  case h_2 => cases h
  case h_1 _ _ _ _ interval _ _ _ _ _ =>
    simp only [Option.bind_eq_some_iff] at h
    obtain ⟨_, -, _, -, _, -, _, -, given, hgiven, _, -, _, -, _, -, _, -, _, -, heq⟩ := h
    cases heq
    cases hinterval : interval with
    | none =>
      rw [hinterval] at hgiven
      cases hgiven
      exact isNumber_zero
    | some j =>
      rw [hinterval] at hgiven
      exact Json.isNumber_of_float? hgiven

theorem exists_of_mem_mapM {α β : Type} {f : α → Option β} {as : List α} {bs : List β}
    (h : as.mapM f = some bs) {b : β} (hb : b ∈ bs) : ∃ a ∈ as, f a = some b := by
  have hall := Json.mapM_eq_some_iff.mp h
  clear h
  induction hall with
  | nil => cases hb
  | cons hfirst _ ih =>
    cases hb with
    | head => exact ⟨_, List.mem_cons_self, hfirst⟩
    | tail _ hb =>
      obtain ⟨a, ha, hb⟩ := ih hb
      exact ⟨a, List.mem_cons_of_mem _ ha, hb⟩

theorem Collectd.isNumber_of_decode {text : List Char} {values : List ValueList}
    (h : decode text = some values) {v : ValueList} (hv : v ∈ values) : IsNumber v.interval := by
  obtain ⟨j, -, hlist⟩ := Option.bind_eq_some_iff.mp h
  unfold Json.list? at hlist
  split at hlist
  case h_1 items =>
    obtain ⟨item, -, hitem⟩ := exists_of_mem_mapM hlist hv
    exact isNumber_interval hitem
  case h_2 => cases hlist

/-- Every interval of a sample that has been decoded is a number. -/
theorem isNumber_of_decodeMessage {source : DataSource} {body : List UInt8} {samples : List Sample}
    (h : decodeMessage source body = .ok samples) {s : Sample} (hs : s ∈ samples) :
    IsNumber s.interval := by
  unfold decodeMessage at h
  cases htext : (Utf8.decode body).mapError DecodeError.notText with
  | error fault => rw [htext] at h; cases h
  | ok text =>
    rw [htext] at h
    change samplesOfText text source = .ok samples at h
    unfold samplesOfText at h
    cases source with
    | collectd =>
      dsimp only at h
      split at h <;> cases h
      case h_1 values hvalues =>
        obtain ⟨v, hv, rfl⟩ := List.mem_map.mp hs
        exact Collectd.isNumber_of_decode hvalues hv
    | ceilometer =>
      dsimp only at h
      split at h <;> cases h
      case h_1 measurements hmeasurements =>
        obtain ⟨m, -, rfl⟩ := List.mem_map.mp hs
        exact isNumber_five

theorem isNumber_of_mem_samples {source : DataSource} {body : List UInt8} {s : Sample}
    (hs : s ∈ (decodeMessage source body).toOption.getD []) : IsNumber s.interval := by
  cases hdecode : decodeMessage source body with
  | error fault =>
    rw [hdecode] at hs
    cases hs
  | ok samples =>
    rw [hdecode] at hs
    exact isNumber_of_decodeMessage hdecode hs

end ScrapeBridge
