import ScrapeBridge.Dispatch
import ScrapeBridge.Proofs.Decimal

namespace ScrapeBridge

open Float.Model (Format UnpackedFloat)
open Float.Model.UnpackedFloat

/-- Where a float greater than zero stands among its like: by exponent and then by mantissa, with
infinity behind all others. -/
def rank? : UnpackedFloat → Option (Nat × Int × Nat)
  | .infinity .positive => some (1, 0, 0)
  | .finite .positive m e _ => some (0, e, m)
  | _ => none

section

variable {u v : UnpackedFloat} {r r' : Nat × Int × Nat}

/-- Of two floats that have ranks, the comparison looks at these only. -/
theorem compare_of_rank? (hu : rank? u = some r) (hv : rank? v = some r') :
    u.compare v = some ((compare r.1 r'.1).then
      ((compare r.2.1 r'.2.1).then (compare r.2.2 r'.2.2))) := by
  rcases u with s | _ | s | ⟨s, m, e, hm⟩ <;> try cases s
  all_goals cases hu
  all_goals rcases v with s | _ | s | ⟨s, m', e', hm'⟩ <;> try cases s
  all_goals cases hv
  all_goals rfl

theorem lt_iff_of_rank? (hu : rank? u = some r) (hv : rank? v = some r') :
    u.lt v = true ↔
      r.1 < r'.1 ∨ r.1 = r'.1 ∧ (r.2.1 < r'.2.1 ∨ r.2.1 = r'.2.1 ∧ r.2.2 < r'.2.2) := by
  rw [UnpackedFloat.lt, compare_of_rank? hu hv]
  simp [Ordering.then_eq_lt, Int.compare_eq_lt, Nat.compare_eq_lt]

theorem exists_rank?_of_lt (hu : rank? u = some r) (h : u.lt v = true) :
    ∃ r', rank? v = some r' := by
  rcases u with s | _ | s | ⟨s, m, e, hm⟩ <;> try cases s
  all_goals cases hu
  all_goals
    revert h
    rcases v with s | _ | s | ⟨s, m', e', hm'⟩ <;> try cases s
  -- Nothing that has no rank is above something that has one.
  all_goals
    first
    | exact fun _ => ⟨_, rfl⟩
    | exact fun h => absurd h Bool.false_ne_true

theorem toBitVec_ofBitVec (s : BitVec 1) : (Sign.ofBitVec s).toBitVec = s := by
  revert s
  decide

theorem packComponents_unpack (b : BitVec Format.binary64.numBits) :
    packComponents Format.binary64 (.ofBitVec (unpackSign b)) (unpackExponent b)
      (unpackMantissa b) = b := by
  have hsign : unpackSign b = b.extractLsb 63 63 := rfl
  simp only [packComponents, toBitVec_ofBitVec, hsign, unpackExponent, unpackMantissa,
    BitVec.extractLsb]
  ext i hi
  grind

theorem parts_of_rank? {b : BitVec Format.binary64.numBits}
    (h : rank? (unpack Format.binary64 b) = some r) :
    Sign.ofBitVec (unpackSign b) = .positive ∧
      (unpackExponent b).toNat =
        (if r.1 = 1 then 2047 else if r.2.2 < 2 ^ 52 then 0 else (r.2.1 + 1075).toNat) ∧
      (unpackMantissa b).toNat = if r.1 = 1 then 0 else r.2.2 % 2 ^ 52 := by
  have hlt : (unpackMantissa b).toNat < 2 ^ 52 := (unpackMantissa b).isLt
  unfold unpack at h
  dsimp only at h
  generalize Sign.ofBitVec (unpackSign b) = s at h ⊢
  -- The exponent's bits tell infinity, subnormal numbers and all others apart.
  by_cases hlargest : unpackExponent b = -1#_
  · rw [if_pos hlargest] at h
    by_cases hmantissa : unpackMantissa b = 0#_
    · rw [if_pos hmantissa] at h
      cases s <;> cases h
      rw [hlargest, hmantissa]
      exact ⟨rfl, rfl, rfl⟩
    · rw [if_neg hmantissa] at h
      cases h
  · rw [if_neg hlargest] at h
    by_cases hsmallest : unpackExponent b = 0#_
    · rw [if_pos hsmallest] at h
      by_cases hmantissa : unpackMantissa b = 0#_
      · rw [dif_pos hmantissa] at h
        cases h
      · rw [dif_neg hmantissa] at h
        cases s <;> cases h
        rw [hsmallest]
        exact ⟨rfl, (if_pos hlt).symm, (Nat.mod_eq_of_lt hlt).symm⟩
    · rw [if_neg hsmallest] at h
      cases s <;> cases h
      have hexponent :
          ((unpackExponent b).toNat : Int) - (Format.binary64.exponentBias + 52) + 1075 =
            (unpackExponent b).toNat := Int.sub_add_cancel _ 1075
      refine ⟨rfl, ?_⟩
      rw [Scrape.toNat_leading_append]
      simp only [Nat.zero_ne_one, if_false]
      rw [if_neg (by omega)]
      exact ⟨(congrArg Int.toNat hexponent).symm, by omega⟩

theorem bits_eq_of_rank? {b b' : BitVec Format.binary64.numBits}
    (h : rank? (unpack Format.binary64 b) = some r)
    (h' : rank? (unpack Format.binary64 b') = some r) : b = b' := by
  obtain ⟨hsign, hexponent, hmantissa⟩ := parts_of_rank? h
  obtain ⟨hsign', hexponent', hmantissa'⟩ := parts_of_rank? h'
  rw [← packComponents_unpack b, ← packComponents_unpack b', hsign, hsign',
    BitVec.eq_of_toNat_eq (hexponent.trans hexponent'.symm),
    BitVec.eq_of_toNat_eq (hmantissa.trans hmantissa'.symm)]

end

def Positive (x : Float) : Prop := ∃ r, rank? x.toModel.unpack = some r

section

variable {x y z : Float}

theorem lt_iff : x < y ↔ x.toModel.unpack.lt y.toModel.unpack = true :=
  decide_eq_true_iff

theorem eq_of_bits (h : x.toModel.toBits.toBitVec = y.toModel.toBits.toBitVec) : x = y := by
  obtain ⟨⟨bits, hbits⟩⟩ := x
  obtain ⟨⟨bits', hbits'⟩⟩ := y
  obtain rfl : bits = bits' := UInt64.toBitVec_inj.mp h
  rfl

theorem positive_of_not_le (hx : IsNumber x) (hpos : ¬ x ≤ 0) : Positive x := by
  have hle : ¬ x.toModel.unpack.le (.zero .positive) = true := fun h => hpos (decide_eq_true h)
  unfold Positive
  unfold IsNumber at hx
  revert hle hx
  rcases x.toModel.unpack with s | _ | s | ⟨s, m, e, hm⟩ <;> try cases s
  all_goals
    first
    | exact fun _ _ => ⟨_, rfl⟩
    | exact fun hle _ => absurd rfl hle
    | exact fun _ hx => absurd rfl hx

theorem Positive.beq_zero (hx : Positive x) : (x == 0) = false := by
  have hbeq : (x == 0) = x.toModel.unpack.beq (.zero .positive) := rfl
  obtain ⟨r, hr⟩ := hx
  rw [hbeq]
  unfold rank? at hr
  split at hr
  case h_1 heq => rw [heq]; rfl
  case h_2 heq => rw [heq]; rfl
  case h_3 => cases hr

theorem Positive.trichotomy (hx : Positive x) (hy : Positive y) : x < y ∨ x = y ∨ y < x := by
  obtain ⟨r, hr⟩ := hx
  obtain ⟨r', hr'⟩ := hy
  rw [lt_iff, lt_iff, lt_iff_of_rank? hr hr', lt_iff_of_rank? hr' hr]
  by_cases hsame : r = r'
  · subst hsame
    exact .inr (.inl (eq_of_bits (bits_eq_of_rank? hr hr')))
  · obtain ⟨k, e, m⟩ := r
    obtain ⟨k', e', m'⟩ := r'
    simp only [Prod.mk.injEq] at hsame ⊢
    omega

theorem Positive.lt_trans (hx : Positive x) (hy : Positive y) (hxy : x < y) (hyz : y < z) :
    x < z := by
  obtain ⟨r, hr⟩ := hx
  obtain ⟨r', hr'⟩ := hy
  obtain ⟨r'', hr''⟩ := exists_rank?_of_lt hr' (lt_iff.mp hyz)
  rw [lt_iff, lt_iff_of_rank? hr hr'] at hxy
  rw [lt_iff, lt_iff_of_rank? hr' hr''] at hyz
  rw [lt_iff, lt_iff_of_rank? hr hr'']
  omega

theorem Positive.lt_asymm (hx : Positive x) (hy : Positive y) (hxy : x < y) : ¬ y < x := by
  obtain ⟨r, hr⟩ := hx
  obtain ⟨r', hr'⟩ := hy
  rw [lt_iff, lt_iff_of_rank? hr hr'] at hxy
  rw [lt_iff, lt_iff_of_rank? hr' hr]
  omega

end

namespace SelfMetrics

def lower (smallest interval : Float) : Float :=
  if interval ≤ 0 then smallest
  else if smallest == 0 || interval < smallest then interval
  else smallest

theorem minInterval_observeInterval (m : SelfMetrics) (interval : Float) :
    (m.observeInterval interval).minInterval = lower m.minInterval interval := by
  unfold observeInterval lower
  split
  · rfl
  · split <;> rfl

theorem lower_of_lt {x y : Float} (hx : Positive x) (hy : Positive y) (hx₀ : ¬ x ≤ 0)
    (hy₀ : ¬ y ≤ 0) (hlt : x < y) (smallest : Float) :
    lower (lower smallest x) y = lower smallest x ∧
      lower (lower smallest y) x = lower smallest x := by
  have hgt := hx.lt_asymm hy hlt
  have htrans := hx.lt_trans hy hlt (z := smallest)
  simp only [lower, if_neg hx₀, if_neg hy₀]
  by_cases hzero : (smallest == 0) = true
  · simp [hzero, hx.beq_zero, hy.beq_zero, hlt, hgt]
  · by_cases hy₁ : y < smallest
    · simp [hzero, hx.beq_zero, hy.beq_zero, hlt, hgt, hy₁, htrans hy₁]
    · by_cases hx₁ : x < smallest <;> simp [hzero, hx.beq_zero, hgt, hy₁, hx₁]

theorem lower_comm {x y : Float} (hx : IsNumber x) (hy : IsNumber y) (smallest : Float) :
    lower (lower smallest x) y = lower (lower smallest y) x := by
  by_cases hx₀ : x ≤ 0
  · simp [lower, hx₀]
  by_cases hy₀ : y ≤ 0
  · simp [lower, hy₀]
  have hpx := positive_of_not_le hx hx₀
  have hpy := positive_of_not_le hy hy₀
  rcases hpx.trichotomy hpy with hlt | rfl | hlt
  · obtain ⟨hfirst, hlast⟩ := lower_of_lt hpx hpy hx₀ hy₀ hlt smallest
    exact hfirst.trans hlast.symm
  · rfl
  · obtain ⟨hfirst, hlast⟩ := lower_of_lt hpy hpx hy₀ hx₀ hlt smallest
    exact hlast.trans hfirst.symm

/-- The smallest interval does not depend on the order of the samples. -/
theorem foldl_lower_perm {samples samples' : List Sample}
    (hperm : samples.Perm samples') (hnumber : ∀ s ∈ samples, IsNumber s.interval)
    (smallest : Float) : (samples.map (·.interval)).foldl lower smallest =
      (samples'.map (·.interval)).foldl lower smallest := by
  apply (hperm.map (·.interval)).foldl_eq'
  intro x hx y hy z
  obtain ⟨s, hs, rfl⟩ := List.mem_map.mp hx
  obtain ⟨t, ht, rfl⟩ := List.mem_map.mp hy
  exact lower_comm (hnumber s hs) (hnumber t ht) z

end SelfMetrics

end ScrapeBridge
