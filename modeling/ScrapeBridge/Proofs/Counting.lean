import Mathlib.Tactic.Ring
import ScrapeBridge.Proofs.Counters
import ScrapeBridge.Scrape

namespace ScrapeBridge.Scrape

open Float.Model (Format UnpackedFloat totalExponent)
open Float.Model.UnpackedFloat

theorem shiftRight_exact (m j : Nat) :
    ExtendedMantissa.ofMantissaAndAccuracy (m * 2 ^ j) .exact >>> j =
      ExtendedMantissa.ofMantissaAndAccuracy m .exact := by
  change j.repeat ExtendedMantissa.shiftRightOne _ = _
  induction j generalizing m with
  | zero => simp [Nat.repeat]
  | succ j ih =>
    rw [show m * 2 ^ (j + 1) = m * 2 * 2 ^ j by ring, Nat.repeat, ih (m * 2)]
    simp [ExtendedMantissa.shiftRightOne, ExtendedMantissa.ofMantissaAndAccuracy]

theorem log2_mul_two_pow {n : Nat} (hn : n ≠ 0) (j : Nat) : (n * 2 ^ j).log2 = n.log2 + j := by
  have hpos : 0 < 2 ^ j := Nat.two_pow_pos j
  rw [Nat.log2_eq_iff (Nat.mul_ne_zero hn (by omega)), pow_add, show n.log2 + j + 1 =
    n.log2 + 1 + j by omega, pow_add _ _ j]
  exact ⟨Nat.mul_le_mul_right _ (Nat.log2_self_le hn),
    Nat.mul_lt_mul_of_pos_right Nat.lt_log2_self hpos⟩

theorem roundWithAccuracy_of_shifts {spec : Format} {s : Sign} {n m : Nat} {e e₁ e₂ : Int}
    {accuracy : Accuracy} {x : ExtendedMantissa} (hm : 0 < m)
    (hfirst : shiftToTargetExponent spec n e accuracy = (x, e₁))
    (hagain : shiftToTargetExponent spec x.roundedMantissa e₁ .exact =
      (.ofMantissaAndAccuracy m .exact, e₂)) :
    roundWithAccuracy spec s n e accuracy = .finite s m e₂ hm := by
  rw [roundWithAccuracy, hfirst]
  dsimp only
  rw [hagain]
  exact dif_neg (Nat.ne_of_gt hm)

section

variable {m : Nat} (h₀ : 2 ^ 52 ≤ m) (h₁ : m < 2 ^ 53)

include h₀ h₁

theorem targetExponent_eq {e : Int} (he : -1074 ≤ e) (j : Nat) :
    Format.binary64.targetExponent (totalExponent (m * 2 ^ j) (e - j)) = e := by
  have hmin : Format.binary64.minExponent = -1074 := by decide
  have hbits : (Format.binary64.mantissaBits : Int) = 53 := by decide
  have hlog : m.log2 = 52 := (Nat.log2_eq_iff (by omega)).mpr ⟨h₀, h₁⟩
  rw [Format.targetExponent, totalExponent, log2_mul_two_pow (by omega), hlog, hmin, hbits]
  omega

theorem shiftToTargetExponent_eq {e : Int} (he : -1074 ≤ e) (j : Nat) :
    shiftToTargetExponent Format.binary64 (m * 2 ^ j) (e - j) .exact =
      (.ofMantissaAndAccuracy m .exact, e) := by
  have hshift : (e - (e - (j : Int))).toNat = j := by omega
  rw [shiftToTargetExponent, targetExponent_eq h₀ h₁ he, shiftToExponent, hshift, shiftRight_exact,
    Int.sub_add_cancel]

theorem roundWithAccuracy_eq {e : Int} (he : -1074 ≤ e) (j : Nat) :
    roundWithAccuracy Format.binary64 .positive (m * 2 ^ j) (e - j) .exact =
      .finite .positive m e (by omega) := by
  have hagain : shiftToTargetExponent Format.binary64 m e .exact =
      (.ofMantissaAndAccuracy m .exact, e) := by
    simpa using shiftToTargetExponent_eq h₀ h₁ he 0
  exact roundWithAccuracy_of_shifts _ (shiftToTargetExponent_eq h₀ h₁ he j) hagain

theorem round_of_longer {e : Int} (he : -1074 ≤ e) (j : Nat) :
    UnpackedFloat.round Format.binary64 .positive (m * 2 ^ j) (e - j) =
      .finite .positive m e (by omega) := by
  have hkept : decreaseExponent (m * 2 ^ j) (e - j) e = (m * 2 ^ j, e - j) := by
    have hshift : (e - (j : Int) - e).toNat = 0 := by omega
    rw [decreaseExponent, hshift, Nat.shiftLeft_zero, Int.natCast_zero, Int.sub_zero]
  rw [UnpackedFloat.round, targetExponent_eq h₀ h₁ he, hkept]
  exact roundWithAccuracy_eq h₀ h₁ he j

theorem round_of_shorter {e : Int} (he : -1074 ≤ e) {n j : Nat} (hm : m = n * 2 ^ j) :
    UnpackedFloat.round Format.binary64 .positive n (e + j) = .finite .positive m e (by omega) := by
  have htarget : Format.binary64.targetExponent (totalExponent n (e + j)) = e := by
    have hn : n ≠ 0 := by
      rintro rfl
      omega
    have hlog : m.log2 = n.log2 + j := by rw [hm, log2_mul_two_pow hn]
    have hsame : totalExponent n (e + j) = totalExponent m e := by
      rw [totalExponent, totalExponent, hlog]
      omega
    rw [hsame]
    simpa using targetExponent_eq h₀ h₁ he 0
  have hlowered : decreaseExponent n (e + j) e = (m, e) := by
    have hshift : (e + (j : Int) - e).toNat = j := by omega
    rw [decreaseExponent, hshift, Nat.shiftLeft_eq, ← hm, Int.add_sub_cancel]
  have hround := roundWithAccuracy_eq h₀ h₁ he 0
  rw [Nat.pow_zero, Nat.mul_one, Int.natCast_zero, Int.sub_zero] at hround
  rw [UnpackedFloat.round, htarget, hlowered]
  exact hround

end

theorem unpackSign_packComponents {spec : Format} {sign : Sign}
    {exponent : BitVec spec.exponentBits} {mantissa : BitVec spec.mantissaBitsWithoutImplicit} :
    unpackSign (packComponents spec sign exponent mantissa) = sign.toBitVec := by
  ext i hi
  have hi₀ : i = 0 := by omega
  change (BitVec.cast _ (BitVec.extractLsb _ _ (packComponents spec sign exponent mantissa)))[i] = _
  simp [packComponents, BitVec.getLsbD_append, BitVec.getElem_append, hi₀]

theorem toNat_leading_append (mantissa : BitVec 52) :
    (1#1 ++ mantissa).toNat = 2 ^ 52 + mantissa.toNat := by
  rw [BitVec.toNat_append, ← Nat.shiftLeft_add_eq_or_of_lt mantissa.isLt]
  rfl

theorem unpack_of_parts {b : BitVec Format.binary64.numBits} {biased : Nat} {mantissa : BitVec 52}
    (h₀ : 0 < biased) (h₁ : biased < 2047) (hsign : unpackSign b = Sign.positive.toBitVec)
    (hexponent : unpackExponent b = BitVec.ofNat 11 biased) (hmantissa : unpackMantissa b = mantissa) :
    unpack Format.binary64 b =
      .finite .positive (2 ^ 52 + mantissa.toNat) ((biased : Int) - 1075) (by omega) := by
  have hbits : (BitVec.ofNat 11 biased).toNat = biased := by
    rw [BitVec.toNat_ofNat]
    omega
  have hlargest : BitVec.ofNat 11 biased ≠ -1#11 := by
    intro h
    rw [h] at hbits
    simp at hbits
    omega
  have hsmallest : BitVec.ofNat 11 biased ≠ 0#11 := by
    intro h
    rw [h] at hbits
    simp at hbits
    omega
  unfold unpack
  dsimp only
  rw [hexponent, if_neg hlargest, if_neg hsmallest, UnpackedFloat.finite.injEq, hsign, hbits,
    hmantissa, toNat_leading_append]
  exact ⟨rfl, rfl, rfl⟩

theorem pack_finite {s : Sign} {m : Nat} {e : Int} {hm : 0 < m} :
    pack Format.binary64 (.finite s m e hm) =
      if 2048 ≤ (e + 1023 + 52).toNat + 1 then packedInfinity Format.binary64 s
      else if m.log2 + 1 = 53 then
        packComponents Format.binary64 s (BitVec.ofNat 11 (e + 1023 + 52).toNat) (BitVec.ofNat 52 m)
      else packComponents Format.binary64 s 0#11 (BitVec.ofNat 52 m) :=
  rfl

section

variable {m : Nat} (h₀ : 2 ^ 52 ≤ m) (h₁ : m < 2 ^ 53)

include h₀ h₁

theorem unpack_pack {e : Int} (he : -1074 ≤ e) (he' : e < 972) :
    unpack Format.binary64 (pack Format.binary64 (.finite .positive m e (by omega))) =
      .finite .positive m e (by omega) := by
  obtain ⟨biased, hbiased⟩ : ∃ biased : Nat, e + 1075 = biased := ⟨(e + 1075).toNat, by omega⟩
  have hpack : pack Format.binary64 (.finite .positive m e (by omega)) =
      packComponents Format.binary64 .positive (BitVec.ofNat 11 biased) (BitVec.ofNat 52 m) := by
    have hlog : m.log2 + 1 = 53 := by
      rw [(Nat.log2_eq_iff (k := 52) (by omega)).mpr ⟨h₀, h₁⟩]
    have hexponent : (e + 1023 + 52).toNat = biased := by omega
    rw [pack_finite, hexponent, if_neg (by omega), if_pos hlog]
  have hmantissa : 2 ^ 52 + (BitVec.ofNat 52 m).toNat = m := by
    rw [BitVec.toNat_ofNat]
    omega
  rw [hpack, unpack_of_parts (by omega) (by omega) unpackSign_packComponents
    unpackExponent_packComponents unpackMantissa_packComponents, UnpackedFloat.finite.injEq]
  exact ⟨rfl, hmantissa, by omega⟩

end

/-- A number with its mantissa of full length and its exponent, which counts from 2 ^ -52. -/
structure Mantissa (n m i : Nat) : Prop where
  full : 2 ^ 52 ≤ m
  bounded : m < 2 ^ 53
  exponent : i ≤ 53
  value : m * 2 ^ i = n * 2 ^ 52

theorem exists_mantissa {n : Nat} (h₀ : 0 < n) (h₁ : n ≤ 2 ^ 53) : ∃ m i, Mantissa n m i := by
  by_cases hlast : n = 2 ^ 53
  · exact ⟨2 ^ 52, 53, by omega, by omega, by omega, by rw [hlast]; rfl⟩
  · have hn : n ≠ 0 := by omega
    have hlog : n.log2 ≤ 52 := by
      have := (Nat.log2_lt (k := 53) hn).mpr (by omega)
      omega
    have hpow : 2 ^ (52 - n.log2) * 2 ^ n.log2 = 2 ^ 52 := by
      rw [← pow_add, Nat.sub_add_cancel hlog]
    refine ⟨n * 2 ^ (52 - n.log2), n.log2, ?_, ?_, by omega, ?_⟩
    · rw [← hpow, Nat.mul_comm]
      exact Nat.mul_le_mul_right _ (Nat.log2_self_le hn)
    · apply Nat.lt_of_mul_lt_mul_right (a := 2 ^ n.log2)
      rw [Nat.mul_assoc, hpow, show 2 ^ 53 * 2 ^ n.log2 = 2 ^ (n.log2 + 1) * 2 ^ 52 by ring]
      exact Nat.mul_lt_mul_of_pos_right Nat.lt_log2_self (Nat.two_pow_pos 52)
    · rw [Nat.mul_assoc, hpow]

section

variable {n m i : Nat}

theorem Mantissa.round_eq (h : Mantissa n m i) (k : Nat) :
    UnpackedFloat.round Format.binary64 .positive (n * 2 ^ k) (-k) =
      .finite .positive m (i - 52) (by have := h.full; omega) := by
  have hvalue := h.value
  by_cases hk : 52 ≤ i + k
  · have hn : n * 2 ^ k = m * 2 ^ (i + k - 52) := by
      apply Nat.eq_of_mul_eq_mul_right (Nat.two_pow_pos 52)
      calc n * 2 ^ k * 2 ^ 52 = n * 2 ^ 52 * 2 ^ k := by ring
        _ = m * 2 ^ (i + k) := by rw [← hvalue, pow_add, Nat.mul_assoc]
        _ = m * 2 ^ (i + k - 52) * 2 ^ 52 := by
          rw [Nat.mul_assoc, ← pow_add, Nat.sub_add_cancel hk]
    have he : -(k : Int) = (i - 52) - ((i + k - 52 : Nat) : Int) := by omega
    rw [hn, he]
    exact round_of_longer h.full h.bounded (by omega) _
  · have hm : m = n * 2 ^ k * 2 ^ (52 - i - k) := by
      apply Nat.eq_of_mul_eq_mul_right (Nat.two_pow_pos i)
      rw [hvalue, Nat.mul_assoc, Nat.mul_assoc, ← pow_add, ← pow_add,
        show k + (52 - i - k + i) = 52 by omega]
    have he : -(k : Int) = (i - 52) + ((52 - i - k : Nat) : Int) := by omega
    rw [he]
    exact round_of_shorter h.full h.bounded (by omega) hm

theorem Mantissa.normalize_eq (h : Mantissa n m i) (k : Nat) :
    UnpackedFloat.normalize Format.binary64 ((n * 2 ^ k : Nat) : Int) (-k) .positive =
      .finite .positive m (i - 52) (by have := h.full; omega) := by
  have hn : 0 < n := by
    apply Nat.pos_of_ne_zero
    rintro rfl
    have hvalue := h.value
    have hm : 0 < m * 2 ^ i := Nat.mul_pos (by have := h.full; omega) (Nat.two_pow_pos i)
    omega
  have hpos : 0 < n * 2 ^ k := Nat.mul_pos hn (Nat.two_pow_pos k)
  have hcompare : compare ((n * 2 ^ k : Nat) : Int) 0 = .gt := Int.compare_eq_gt.mpr (by omega)
  rw [UnpackedFloat.normalize, hcompare]
  exact h.round_eq k

theorem Mantissa.count_eq (h : Mantissa n m i) (hn : n ≤ 2 ^ 53) :
    count n = .ofModel (Float.Model.pack
      (.finite .positive m (i - 52) (by have := h.full; omega))) := by
  have hsmall : (UInt64.ofNat n).toNat = n := by
    rw [UInt64.toNat_ofNat']
    omega
  have hnormalize := h.normalize_eq 0
  rw [Nat.pow_zero, Nat.mul_one] at hnormalize
  rw [← hnormalize, count, UInt64.toFloat, Float.Model.ofUInt64, ofUInt64, ofNat, hsmall]
  rfl

theorem Mantissa.unpack_count (h : Mantissa n m i) (hn : n ≤ 2 ^ 53) :
    (count n).toModel.unpack = .finite .positive m (i - 52) (by have := h.full; omega) := by
  rw [h.count_eq hn]
  have := h.exponent
  exact unpack_pack h.full h.bounded (by omega) (by omega)

end

theorem mantissa_shiftRight (em : ExtendedMantissa) (k : Nat) :
    (em >>> k).mantissa = em.mantissa / 2 ^ k := by
  change (k.repeat ExtendedMantissa.shiftRightOne em).mantissa = _
  induction k with
  | zero => simp [Nat.repeat]
  | succ k ih => rw [Nat.repeat, ExtendedMantissa.shiftRightOne, ih, Nat.div_div_eq_div_mul, pow_succ]

theorem roundedMantissa_bounds (em : ExtendedMantissa) :
    em.mantissa ≤ em.roundedMantissa ∧ em.roundedMantissa ≤ em.mantissa + 1 := by
  obtain ⟨m, round, sticky⟩ := em
  cases round <;> cases sticky <;>
    simp only [ExtendedMantissa.roundedMantissa, ExtendedMantissa.accuracy,
      Accuracy.roundToNearestEven] <;> omega

/-- A mantissa that rounding has carried over its length gives up its last bit, a zero. -/
theorem exists_shiftToTargetExponent {r : Nat} (h₀ : 2 ^ 52 ≤ r) (h₁ : r ≤ 2 ^ 53) {e : Int}
    (he : -1074 ≤ e) :
    ∃ (m : Nat) (e' : Int), 2 ^ 52 ≤ m ∧ m < 2 ^ 53 ∧ e ≤ e' ∧ e' ≤ e + 1 ∧
      shiftToTargetExponent Format.binary64 r e .exact = (.ofMantissaAndAccuracy m .exact, e') := by
  by_cases hlast : r = 2 ^ 53
  · refine ⟨2 ^ 52, e + 1, by omega, by omega, by omega, by omega, ?_⟩
    have hcarried := shiftToTargetExponent_eq (m := 2 ^ 52) (by omega) (by omega)
      (e := e + 1) (by omega) 1
    rwa [show 2 ^ 52 * 2 ^ 1 = r by omega, show e + 1 - (1 : Nat) = e by omega] at hcarried
  · have hr : r < 2 ^ 53 := by omega
    refine ⟨r, e, h₀, hr, by omega, by omega, ?_⟩
    simpa using shiftToTargetExponent_eq h₀ hr he 0

theorem shiftRight_add (em : ExtendedMantissa) (j k : Nat) : em >>> (j + k) = em >>> j >>> k := by
  change (j + k).repeat ExtendedMantissa.shiftRightOne em =
    k.repeat ExtendedMantissa.shiftRightOne (j.repeat ExtendedMantissa.shiftRightOne em)
  induction k with
  | zero => rfl
  | succ k ih => rw [← Nat.add_assoc, Nat.repeat, ih, Nat.repeat]

section

variable {n : Nat} (h₀ : 2 ^ 53 ≤ n)

include h₀

theorem targetExponent_of_long (j : Nat) :
    Format.binary64.targetExponent (totalExponent (n * 2 ^ j) (-j)) = (n.log2 - 52 : Nat) := by
  have hn : n ≠ 0 := by omega
  have hlog : 53 ≤ n.log2 := (Nat.le_log2 hn).mpr h₀
  have hmin : Format.binary64.minExponent = -1074 := by decide
  have hbits : (Format.binary64.mantissaBits : Int) = 53 := by decide
  rw [Format.targetExponent, totalExponent, log2_mul_two_pow hn, hmin, hbits]
  omega

theorem cut_bounds : 2 ^ 52 ≤ n / 2 ^ (n.log2 - 52) ∧ n / 2 ^ (n.log2 - 52) < 2 ^ 53 := by
  have hn : n ≠ 0 := by omega
  have hlog : 53 ≤ n.log2 := (Nat.le_log2 hn).mpr h₀
  constructor
  · rw [Nat.le_div_iff_mul_le (Nat.two_pow_pos _), ← pow_add, Nat.add_sub_cancel' (by omega)]
    exact Nat.log2_self_le hn
  · rw [Nat.div_lt_iff_lt_mul (Nat.two_pow_pos _), ← pow_add,
      show 53 + (n.log2 - 52) = n.log2 + 1 by omega]
    exact Nat.lt_log2_self

theorem exists_roundWithAccuracy_of_long {b : Nat} (h₁ : n < 2 ^ b) (j : Nat) :
    ∃ (m : Nat) (e : Int) (hm : 0 < m), 2 ^ 52 ≤ m ∧ m < 2 ^ 53 ∧ 0 ≤ e ∧ e + 52 ≤ b ∧
      roundWithAccuracy Format.binary64 .positive (n * 2 ^ j) (-j) .exact =
        .finite .positive m e hm := by
  have hn : n ≠ 0 := by omega
  have hlow : 53 ≤ n.log2 := (Nat.le_log2 hn).mpr h₀
  have hhigh : n.log2 < b := (Nat.log2_lt hn).mpr h₁
  have htarget := targetExponent_of_long h₀ j
  have hcut := cut_bounds h₀
  generalize hk : n.log2 - 52 = k at htarget hcut
  obtain ⟨hr₀, hr₁⟩ := roundedMantissa_bounds
    (ExtendedMantissa.ofMantissaAndAccuracy n .exact >>> k)
  rw [mantissa_shiftRight] at hr₀ hr₁
  change n / 2 ^ k ≤ _ at hr₀
  change _ ≤ n / 2 ^ k + 1 at hr₁
  obtain ⟨m, e, hm₀, hm₁, he₀, he₁, hshift⟩ := exists_shiftToTargetExponent
    (r := (ExtendedMantissa.ofMantissaAndAccuracy n .exact >>> k).roundedMantissa)
    (by omega) (by omega) (e := k) (by omega)
  refine ⟨m, e, by omega, hm₀, hm₁, by omega, by omega, ?_⟩
  have hfirst : shiftToTargetExponent Format.binary64 (n * 2 ^ j) (-j) .exact =
      (ExtendedMantissa.ofMantissaAndAccuracy n .exact >>> k, (k : Int)) := by
    have hdistance : ((k : Int) - -j).toNat = j + k := by omega
    rw [shiftToTargetExponent, htarget, shiftToExponent, hdistance, shiftRight_add,
      shiftRight_exact]
    exact Prod.ext rfl (by push_cast; omega)
  exact roundWithAccuracy_of_shifts _ hfirst hshift

theorem exists_round_of_long (h₁ : n < 2 ^ 64) :
    ∃ (m : Nat) (e : Int) (hm : 0 < m), 2 ^ 52 ≤ m ∧ m < 2 ^ 53 ∧ 0 ≤ e ∧ e ≤ 12 ∧
      UnpackedFloat.round Format.binary64 .positive n 0 = .finite .positive m e hm := by
  obtain ⟨m, e, hm, hm₀, hm₁, he₀, he₁, hround⟩ := exists_roundWithAccuracy_of_long h₀ h₁ 0
  refine ⟨m, e, hm, hm₀, hm₁, he₀, by omega, ?_⟩
  -- The exponent is not lowered, since the number has digits to spare.
  have htarget := targetExponent_of_long h₀ 0
  rw [Nat.pow_zero, Nat.mul_one, Int.natCast_zero, Int.neg_zero] at htarget hround
  have hkept : decreaseExponent n 0 (Format.binary64.targetExponent (totalExponent n 0)) =
      (n, 0) := by
    rw [htarget, decreaseExponent, show (0 - ((n.log2 - 52 : Nat) : Int)).toNat = 0 by omega]
    simp
  rw [UnpackedFloat.round, hkept]
  exact hround

end

theorem float_add (x y : Float) :
    x + y = .ofModel (Float.Model.pack (add Format.binary64 x.toModel.unpack y.toModel.unpack)) :=
  rfl

theorem unpack_count_zero : (count 0).toModel.unpack = .zero .positive := rfl

theorem count_eq_round {n : Nat} (h₀ : 0 < n) (h₁ : n < 2 ^ 64) :
    count n = .ofModel (Float.Model.pack (UnpackedFloat.round Format.binary64 .positive n 0)) := by
  have hsame : (UInt64.ofNat n).toNat = n := by
    rw [UInt64.toNat_ofNat']
    omega
  have hcompare : compare (n : Int) 0 = .gt := Int.compare_eq_gt.mpr (by omega)
  rw [count, UInt64.toFloat, Float.Model.ofUInt64, ofUInt64, ofNat, hsame, ofInt,
    UnpackedFloat.normalize, hcompare]
  rfl

theorem exists_unpack_count {n : Nat} (h₀ : 0 < n) (h₁ : n < 2 ^ 64) :
    ∃ m e hm, (count n).toModel.unpack = .finite .positive m e hm := by
  by_cases hn : n ≤ 2 ^ 53
  · obtain ⟨m, i, hm⟩ := exists_mantissa h₀ hn
    exact ⟨m, _, _, hm.unpack_count hn⟩
  · obtain ⟨m, e, hm, hm₀, hm₁, he₀, he₁, hround⟩ := exists_round_of_long (n := n) (by omega) h₁
    refine ⟨m, e, hm, ?_⟩
    rw [count_eq_round h₀ h₁, hround]
    exact unpack_pack hm₀ hm₁ (by omega) (by omega)

theorem count_pos_iff {n : Nat} (h : n < UInt64.size) : 0 < count n ↔ 0 < n := by
  have hzero : (0 : Float) = count 0 := by decide +kernel
  constructor
  · intro hpos
    by_contra hn
    obtain rfl : n = 0 := by omega
    revert hpos
    decide +kernel
  · intro hpos
    obtain ⟨m, e, hm, hunpack⟩ := exists_unpack_count hpos h
    have hless : (count 0).toModel.lt (count n).toModel = true := by
      rw [Float.Model.lt, unpack_count_zero, hunpack]
      rfl
    rw [hzero]
    exact decide_eq_true hless

theorem Mantissa.shift_eq {n m i : Nat} (h : Mantissa n m i) {k : Nat} (hk : 52 ≤ i + k) :
    m <<< ((i : Int) - 52 - -k).toNat = n * 2 ^ k := by
  have hshift : ((i : Int) - 52 - -k).toNat = i + k - 52 := by omega
  rw [hshift, Nat.shiftLeft_eq]
  apply Nat.eq_of_mul_eq_mul_right (Nat.two_pow_pos 52)
  calc m * 2 ^ (i + k - 52) * 2 ^ 52 = m * 2 ^ (i + k) := by
        rw [Nat.mul_assoc, ← pow_add, Nat.sub_add_cancel hk]
    _ = m * 2 ^ i * 2 ^ k := by rw [pow_add, Nat.mul_assoc]
    _ = n * 2 ^ k * 2 ^ 52 := by rw [h.value]; ring

theorem Mantissa.exponent_le {n m i : Nat} (h : Mantissa n m i) (hn : n < 2 ^ 53) : i ≤ 52 := by
  by_contra hi
  have hlarge : 2 ^ 52 * 2 ^ 53 ≤ n * 2 ^ 52 := by
    rw [← h.value]
    exact Nat.mul_le_mul h.full (Nat.pow_le_pow_right (by omega) (by omega))
  omega

theorem Mantissa.add_eq {a b m m' i i' : Nat} (h : Mantissa a m i) (h' : Mantissa b m' i')
    (ha : a < 2 ^ 53) (hb : b < 2 ^ 53) :
    ∃ k : Nat, add Format.binary64
        (.finite .positive m (i - 52) (by have := h.full; omega))
        (.finite .positive m' (i' - 52) (by have := h'.full; omega)) =
      UnpackedFloat.normalize Format.binary64 (((a + b) * 2 ^ k : Nat) : Int) (-k) .positive := by
  have hi := h.exponent_le ha
  have hi' := h'.exponent_le hb
  refine ⟨52 - min i i', ?_⟩
  have hmin : min ((i : Int) - 52) ((i' : Int) - 52) = -((52 - min i i' : Nat) : Int) := by omega
  have hm := h.shift_eq (k := 52 - min i i') (by omega)
  have hm' := h'.shift_eq (k := 52 - min i i') (by omega)
  change UnpackedFloat.normalize Format.binary64
    ((decreaseExponent m (i - 52) (min ((i : Int) - 52) (i' - 52))).1 +
      (decreaseExponent m' (i' - 52) (min ((i : Int) - 52) (i' - 52))).1) _ .positive = _
  rw [hmin, decreaseExponent, decreaseExponent, hm, hm', Nat.add_mul, Int.natCast_add]

theorem count_add {a b : Nat} (h : a + b ≤ 2 ^ 53) : count a + count b = count (a + b) := by
  rcases Nat.eq_zero_or_pos a with rfl | ha
  · rcases Nat.eq_zero_or_pos b with rfl | hb
    · decide +kernel
    · obtain ⟨m, i, hm⟩ := exists_mantissa hb (by omega)
      rw [Nat.zero_add, float_add, unpack_count_zero, hm.unpack_count (by omega),
        hm.count_eq (by omega)]
      rfl
  · obtain ⟨m, i, hm⟩ := exists_mantissa ha (by omega)
    rcases Nat.eq_zero_or_pos b with rfl | hb
    · rw [Nat.add_zero, float_add, unpack_count_zero, hm.unpack_count (by omega),
        hm.count_eq (by omega)]
      rfl
    · obtain ⟨m', i', hm'⟩ := exists_mantissa hb (by omega)
      obtain ⟨m'', i'', hm''⟩ := exists_mantissa (Nat.add_pos_left ha b) h
      obtain ⟨k, hsum⟩ := hm.add_eq hm' (by omega) (by omega)
      rw [float_add, hm.unpack_count (by omega), hm'.unpack_count (by omega), hm''.count_eq h,
        hsum, hm''.normalize_eq]

/-- Counting one by one is exact. -/
theorem tally_eq_count {n : Nat} (h : n ≤ 2 ^ 53) : Counters.tally n = count n := by
  induction n with
  | zero => decide +kernel
  | succ n ih =>
    have hone : (1 : Float) = count 1 := by decide +kernel
    rw [← count_add (a := n) (b := 1) h, ← ih (by omega), ← hone]
    rfl

end ScrapeBridge.Scrape
