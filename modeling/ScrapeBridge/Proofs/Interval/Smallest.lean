import Mathlib
import ScrapeBridge.Proofs.Interval

-- No file of Mathlib brings `Float.nan` and its lemmas by itself, so all of it is imported here.

namespace ScrapeBridge

open Float.Model (UnpackedFloat)

section

variable {u v : UnpackedFloat} {r r' : Nat × Int × Nat} {x y z : Float}

theorem le_eq_of_rank? (hu : rank? u = some r) (hv : rank? v = some r') : u.le v = !v.lt u := by
  have hkind : compare r'.1 r.1 = (compare r.1 r'.1).swap := Std.OrientedCmp.eq_swap
  have hexponent : compare r'.2.1 r.2.1 = (compare r.2.1 r'.2.1).swap := Std.OrientedCmp.eq_swap
  have hmantissa : compare r'.2.2 r.2.2 = (compare r.2.2 r'.2.2).swap := Std.OrientedCmp.eq_swap
  rw [UnpackedFloat.le, UnpackedFloat.lt, compare_of_rank? hu hv, compare_of_rank? hv hu, hkind,
    hexponent, hmantissa, ← Ordering.swap_then, ← Ordering.swap_then]
  generalize (compare r.1 r'.1).then _ = o
  cases o <;> rfl

theorem le_iff : x ≤ y ↔ x.toModel.unpack.le y.toModel.unpack = true :=
  decide_eq_true_iff

theorem unpack_zero : (0 : Float).toModel.unpack = .zero .positive := rfl

theorem unpack_nan : Float.nan.toModel.unpack = .notANumber := rfl

theorem isNumber_iff : IsNumber x ↔ x ≠ Float.nan := by
  have hnan : x.isNaN = x.toModel.unpack.isNaN := rfl
  rw [Float.isNaN_eq_decide_eq_nan] at hnan
  rw [IsNumber, Ne, ← UnpackedFloat.isNaN_iff, ← hnan, decide_eq_true_eq]

theorem positive_iff : Positive x ↔ 0 < x := by
  rw [lt_iff, unpack_zero]
  unfold Positive
  rcases x.toModel.unpack with s | _ | s | ⟨s, m, e, hm⟩ <;> try cases s
  all_goals simp [UnpackedFloat.lt, UnpackedFloat.compare, rank?]

theorem not_le_of_pos (hx : 0 < x) : ¬ x ≤ 0 := by
  rw [lt_iff, unpack_zero] at hx
  rw [le_iff, unpack_zero]
  revert hx
  rcases x.toModel.unpack with s | _ | s | ⟨s, m, e, hm⟩ <;> try cases s
  all_goals simp [UnpackedFloat.lt, UnpackedFloat.le, UnpackedFloat.compare]

theorem not_nan_le (x : Float) : ¬ Float.nan ≤ x := by
  rw [le_iff, unpack_nan]
  exact Bool.false_ne_true

theorem not_nan_lt (x : Float) : ¬ Float.nan < x := by
  rw [lt_iff, unpack_nan]
  exact Bool.false_ne_true

theorem not_lt_nan (x : Float) : ¬ x < Float.nan := by
  rw [lt_iff, unpack_nan]
  cases x.toModel.unpack <;> exact Bool.false_ne_true

theorem le_or_lt_or_eq_nan (x : Float) : x ≤ 0 ∨ 0 < x ∨ x = Float.nan := by
  by_cases hle : x ≤ 0
  · exact .inl hle
  · by_cases hnan : x = Float.nan
    · exact .inr (.inr hnan)
    · exact .inr (.inl (positive_iff.mp (positive_of_not_le (isNumber_iff.mpr hnan) hle)))

theorem Positive.le_iff (hx : Positive x) (hy : Positive y) : x ≤ y ↔ ¬ y < x := by
  obtain ⟨r, hr⟩ := hx
  obtain ⟨r', hr'⟩ := hy
  rw [ScrapeBridge.le_iff, lt_iff, le_eq_of_rank? hr hr', Bool.not_eq_true', Bool.not_eq_true]

theorem Positive.le_refl (hx : Positive x) : x ≤ x :=
  (hx.le_iff hx).mpr fun h => hx.lt_asymm hx h h

theorem Positive.le_trans (hx : Positive x) (hy : Positive y) (hz : Positive z) (hxy : x ≤ y)
    (hyz : y ≤ z) : x ≤ z := by
  rw [hx.le_iff hy] at hxy
  rw [hy.le_iff hz] at hyz
  rw [hx.le_iff hz]
  intro hzx
  obtain hlt | rfl | hlt := hy.trichotomy hz
  · exact hxy (hy.lt_trans hz hlt hzx)
  · exact hxy hzx
  · exact hyz hlt

theorem Positive.le_antisymm (hx : Positive x) (hy : Positive y) (hxy : x ≤ y) (hyx : y ≤ x) :
    x = y := by
  rw [hx.le_iff hy] at hxy
  rw [hy.le_iff hx] at hyx
  obtain hlt | heq | hlt := hx.trichotomy hy
  · exact absurd hlt hyx
  · exact heq
  · exact absurd hlt hxy

end

namespace SelfMetrics

/-- The smallest interval greater than zero, or zero if there is none. -/
def IsSmallest (smallest : Float) (intervals : List Float) : Prop :=
  (smallest ∈ intervals ∧ 0 < smallest ∧ ∀ x ∈ intervals, 0 < x → smallest ≤ x) ∨
    (∀ x ∈ intervals, ¬ 0 < x) ∧ smallest = 0

/-- Wherever an interval is no number, one that is greater than zero comes before it. -/
def Sheltered (intervals : List Float) : Prop :=
  ∀ before after, intervals = before ++ Float.nan :: after → ∃ x ∈ before, 0 < x

def smallestOf (intervals : List Float) : Float :=
  (intervals.foldl observeInterval {}).minInterval

section

variable {x s s' : Float} {l l' before after : List Float}

theorem lower_of_le (hx : x ≤ 0) (s : Float) : lower s x = s := if_pos hx

theorem lower_zero (hx : ¬ x ≤ 0) : lower 0 x = x := by
  have hzero : ((0 : Float) == 0) = true := rfl
  simp [lower, hx, hzero]

theorem lower_nan_left (x : Float) : lower Float.nan x = Float.nan := by
  simp [lower, not_lt_nan]

theorem lower_nan_right (hs : 0 < s) : lower s Float.nan = s := by
  simp [lower, (positive_iff.mpr hs).beq_zero, not_nan_lt]

theorem lower_of_pos (hs : 0 < s) (hx : 0 < x) : lower s x = if x < s then x else s := by
  simp [lower, not_le_of_pos hx, (positive_iff.mpr hs).beq_zero]

theorem lower_cases (hs : 0 < s) (x : Float) :
    lower s x = s ∧ (0 < x → s ≤ x) ∨ lower s x = x ∧ 0 < x ∧ x ≤ s := by
  have hps := positive_iff.mpr hs
  obtain hx | hx | rfl := le_or_lt_or_eq_nan x
  · exact .inl ⟨lower_of_le hx s, fun hpos => absurd hx (not_le_of_pos hpos)⟩
  · have hpx := positive_iff.mpr hx
    rw [lower_of_pos hs hx]
    by_cases hlt : x < s
    · exact .inr ⟨if_pos hlt, hx, (hpx.le_iff hps).mpr (hpx.lt_asymm hps hlt)⟩
    · exact .inl ⟨if_neg hlt, fun _ => (hps.le_iff hpx).mpr hlt⟩
  · exact .inl ⟨lower_nan_right hs, fun hpos => absurd hpos (not_lt_nan 0)⟩

theorem foldl_lower_nan (l : List Float) : l.foldl lower Float.nan = Float.nan := by
  induction l with
  | nil => rfl
  | cons x l ih => rw [List.foldl_cons, lower_nan_left, ih]

theorem foldl_lower_of_pos (hs : 0 < s) (l : List Float) :
    l.foldl lower s ∈ s :: l ∧ 0 < l.foldl lower s ∧
      ∀ x ∈ s :: l, 0 < x → l.foldl lower s ≤ x := by
  -- That the gauge is greater than zero carries the induction: it is never taken for unset again.
  induction l generalizing s with
  | nil => simpa using ⟨hs, fun _ => (positive_iff.mpr hs).le_refl⟩
  | cons x l ih =>
    rw [List.foldl_cons]
    obtain ⟨heq, hle⟩ | ⟨heq, hx, hle⟩ := lower_cases hs x
    · obtain ⟨hmem, hpos, hall⟩ := ih hs
      rw [heq]
      refine ⟨by grind, hpos, ?_⟩
      rw [List.forall_mem_cons] at hall ⊢
      refine ⟨hall.1, List.forall_mem_cons.mpr ⟨fun hx => ?_, hall.2⟩⟩
      exact (positive_iff.mpr hpos).le_trans (positive_iff.mpr hs) (positive_iff.mpr hx)
        (hall.1 hs) (hle hx)
    · obtain ⟨hmem, hpos, hall⟩ := ih hx
      rw [heq]
      refine ⟨.tail _ hmem, hpos, List.forall_mem_cons.mpr ⟨fun _ => ?_, hall⟩⟩
      exact (positive_iff.mpr hpos).le_trans (positive_iff.mpr hx) (positive_iff.mpr hs)
        (hall x (.head _) hx) hle

theorem smallestOf_eq (l : List Float) : smallestOf l = l.foldl lower 0 := by
  have hfold : ∀ m : SelfMetrics,
      (l.foldl observeInterval m).minInterval = l.foldl lower m.minInterval := by
    induction l with
    | nil => exact fun _ => rfl
    | cons x l ih =>
      intro m
      rw [List.foldl_cons, ih, minInterval_observeInterval, List.foldl_cons]
  exact hfold {}

theorem smallestOf_append (l l' : List Float) :
    smallestOf (l ++ l') = l'.foldl lower (smallestOf l) := by
  rw [smallestOf_eq, smallestOf_eq, List.foldl_append]

theorem smallestOf_cons_of_le (hx : x ≤ 0) (l : List Float) :
    smallestOf (x :: l) = smallestOf l := by
  rw [smallestOf_eq, smallestOf_eq, List.foldl_cons, lower_of_le hx]

theorem smallestOf_cons (hx : ¬ x ≤ 0) (l : List Float) :
    smallestOf (x :: l) = l.foldl lower x := by
  rw [smallestOf_eq, List.foldl_cons, lower_zero hx]

theorem smallestOf_nan_cons (l : List Float) : smallestOf (Float.nan :: l) = Float.nan := by
  rw [smallestOf_cons (not_nan_le 0), foldl_lower_nan]

theorem sheltered_of_pos (hx : 0 < x) (l : List Float) : Sheltered (x :: l) := by
  intro before after hl
  cases before with
  | nil =>
    cases hl
    exact absurd hx (not_lt_nan 0)
  | cons y before =>
    cases hl
    exact ⟨x, .head _, hx⟩

theorem sheltered_cons_of_le (hx : x ≤ 0) : Sheltered (x :: l) ↔ Sheltered l := by
  constructor
  · intro h before after hl
    obtain ⟨y, hy, hpos⟩ := h (x :: before) after (congrArg (x :: ·) hl)
    cases hy with
    | head => exact absurd hx (not_le_of_pos hpos)
    | tail _ hy => exact ⟨y, hy, hpos⟩
  · intro h before after hl
    cases before with
    | nil =>
      cases hl
      exact absurd hx (not_nan_le 0)
    | cons y before =>
      cases hl
      obtain ⟨z, hz, hpos⟩ := h before after rfl
      exact ⟨z, .tail _ hz, hpos⟩

theorem not_sheltered_nan_cons (l : List Float) : ¬ Sheltered (Float.nan :: l) := by
  intro h
  obtain ⟨x, hx, -⟩ := h [] l rfl
  cases hx

theorem isSmallest_cons_of_le (hx : x ≤ 0) (h : IsSmallest s l) : IsSmallest s (x :: l) := by
  have hnot : ¬ 0 < x := fun hpos => not_le_of_pos hpos hx
  obtain ⟨hmem, hpos, hall⟩ | ⟨hall, hzero⟩ := h
  · exact .inl ⟨.tail _ hmem, hpos, List.forall_mem_cons.mpr ⟨fun h => absurd h hnot, hall⟩⟩
  · exact .inr ⟨List.forall_mem_cons.mpr ⟨hnot, hall⟩, hzero⟩

theorem smallestOf_cases (l : List Float) :
    Sheltered l ∧ IsSmallest (smallestOf l) l ∨ ¬ Sheltered l ∧ smallestOf l = Float.nan := by
  induction l with
  | nil => exact .inl ⟨fun _ _ h => by simp at h, .inr ⟨by simp, rfl⟩⟩
  | cons x l ih =>
    obtain hx | hx | rfl := le_or_lt_or_eq_nan x
    · rw [smallestOf_cons_of_le hx, sheltered_cons_of_le hx]
      exact ih.imp_left fun ⟨hsheltered, h⟩ => ⟨hsheltered, isSmallest_cons_of_le hx h⟩
    · rw [smallestOf_cons (not_le_of_pos hx)]
      exact .inl ⟨sheltered_of_pos hx l, .inl (foldl_lower_of_pos hx l)⟩
    · exact .inr ⟨not_sheltered_nan_cons l, smallestOf_nan_cons l⟩

theorem not_isSmallest_nan (l : List Float) : ¬ IsSmallest Float.nan l := by
  rintro (⟨-, hpos, -⟩ | ⟨-, hzero⟩)
  · exact not_lt_nan 0 hpos
  · exact isNumber_iff.mp isNumber_zero hzero.symm

theorem isSmallest_iff : IsSmallest (smallestOf l) l ↔ Sheltered l := by
  obtain ⟨hsheltered, h⟩ | ⟨hnot, hnan⟩ := smallestOf_cases l
  · exact iff_of_true h hsheltered
  · exact iff_of_false (hnan ▸ not_isSmallest_nan l) hnot

theorem smallestOf_eq_nan_iff : smallestOf l = Float.nan ↔ ¬ Sheltered l := by
  obtain ⟨hsheltered, h⟩ | ⟨hnot, hnan⟩ := smallestOf_cases l
  · refine iff_of_false (fun hnan => ?_) (not_not.mpr hsheltered)
    rw [hnan] at h
    exact not_isSmallest_nan l h
  · exact iff_of_true hnan hnot

theorem IsSmallest.eq_of_perm (h : IsSmallest s l) (h' : IsSmallest s' l') (hperm : l.Perm l') :
    s' = s := by
  obtain ⟨hmem, hpos, hall⟩ | ⟨hall, hzero⟩ := h <;>
    obtain ⟨hmem', hpos', hall'⟩ | ⟨hall', hzero'⟩ := h'
  · exact (positive_iff.mpr hpos').le_antisymm (positive_iff.mpr hpos)
      (hall' _ (hperm.mem_iff.mp hmem) hpos) (hall _ (hperm.mem_iff.mpr hmem') hpos')
  · exact absurd hpos (hall' _ (hperm.mem_iff.mp hmem))
  · exact absurd hpos' (hall _ (hperm.mem_iff.mpr hmem'))
  · rw [hzero, hzero']

theorem sheltered_of_not_mem (h : Float.nan ∉ l) : Sheltered l := by
  rintro before after rfl
  exact absurd (by simp) h

theorem not_sheltered (h : ∀ x ∈ l, ¬ 0 < x) (hnan : Float.nan ∈ l) : ¬ Sheltered l := by
  intro hsheltered
  obtain ⟨before, after, rfl⟩ := List.append_of_mem hnan
  obtain ⟨x, hx, hpos⟩ := hsheltered before after rfl
  exact h x (by simp [hx]) hpos

theorem smallestOf_perm (h : Float.nan ∉ l ∨ ∀ x ∈ l, ¬ 0 < x) (hperm : l.Perm l') :
    smallestOf l' = smallestOf l := by
  by_cases hnan : Float.nan ∈ l
  · have hnone := h.resolve_left (not_not.mpr hnan)
    have hnone' : ∀ x ∈ l', ¬ 0 < x := fun x hx => hnone x (hperm.mem_iff.mpr hx)
    rw [smallestOf_eq_nan_iff.mpr (not_sheltered hnone hnan),
      smallestOf_eq_nan_iff.mpr (not_sheltered hnone' (hperm.mem_iff.mp hnan))]
  · have hnan' : Float.nan ∉ l' := fun h => hnan (hperm.mem_iff.mpr h)
    exact (isSmallest_iff.mpr (sheltered_of_not_mem hnan)).eq_of_perm
      (isSmallest_iff.mpr (sheltered_of_not_mem hnan')) hperm

theorem smallestOf_perm_iff : (∀ l', l.Perm l' → smallestOf l' = smallestOf l) ↔
    Float.nan ∉ l ∨ ∀ x ∈ l, ¬ 0 < x := by
  refine ⟨fun h => ?_, fun h _ => smallestOf_perm h⟩
  by_contra! hboth
  obtain ⟨hnan, x, hx, hpos⟩ := hboth
  -- Two orders that differ: no number in front in the one, the positive interval in the other.
  obtain ⟨before, after, hl⟩ := List.append_of_mem hnan
  obtain ⟨before', after', hl'⟩ := List.append_of_mem hx
  have hspoilt := h (Float.nan :: (before ++ after)) (hl ▸ List.perm_middle)
  have hshown := h (x :: (before' ++ after')) (hl' ▸ List.perm_middle)
  rw [smallestOf_nan_cons] at hspoilt
  rw [smallestOf_cons (not_le_of_pos hpos), ← hspoilt] at hshown
  have hlowest := (foldl_lower_of_pos hpos (before' ++ after')).2.1
  rw [hshown] at hlowest
  exact not_lt_nan 0 hlowest

theorem smallestOf_append_le (hpos : 0 < smallestOf l) (more : List Float) :
    0 < smallestOf (l ++ more) ∧ smallestOf (l ++ more) ≤ smallestOf l := by
  rw [smallestOf_append]
  obtain ⟨-, hlowest, hall⟩ := foldl_lower_of_pos hpos more
  exact ⟨hlowest, hall _ (.head _) hpos⟩

theorem smallestOf_insert_of_le (hx : x ≤ 0) (before after : List Float) :
    smallestOf (before ++ x :: after) = smallestOf (before ++ after) := by
  rw [smallestOf_append, smallestOf_append, List.foldl_cons, lower_of_le hx]

theorem smallestOf_insert_nan (h : ∃ x ∈ before, 0 < x) (after : List Float) :
    smallestOf (before ++ Float.nan :: after) = smallestOf (before ++ after) := by
  obtain ⟨x, hx, hpos⟩ := h
  rw [smallestOf_append, smallestOf_append, List.foldl_cons]
  obtain ⟨-, ⟨-, hlowest, -⟩ | ⟨hnone, -⟩⟩ | ⟨-, hnan⟩ := smallestOf_cases before
  · rw [lower_nan_right hlowest]
  · exact absurd hpos (hnone x hx)
  · rw [hnan, lower_nan_left]

theorem smallestOf_insert_nan_iff :
    smallestOf (before ++ Float.nan :: after) = smallestOf (before ++ after) ↔
      (∃ x ∈ before, 0 < x) ∨ ¬ Sheltered (before ++ after) := by
  by_cases hbefore : ∃ x ∈ before, 0 < x
  · exact iff_of_true (smallestOf_insert_nan hbefore after) (.inl hbefore)
  · have hspoilt : smallestOf (before ++ Float.nan :: after) = Float.nan :=
      smallestOf_eq_nan_iff.mpr fun h => hbefore (h before after rfl)
    rw [hspoilt, or_iff_right hbefore, ← smallestOf_eq_nan_iff, eq_comm]

end

/-- The gauge shows the smallest interval if and only if no interval that is no number comes before
all that are greater than zero; otherwise it shows no number. It never rises once it is greater than
zero, and nothing that is not greater than zero makes a difference, except where an interval that is
no number comes first. -/
theorem smallestOf_isSmallest_iff (intervals : List Float) :
    (IsSmallest (smallestOf intervals) intervals ↔ Sheltered intervals) ∧
    (smallestOf intervals = Float.nan ↔ ¬ Sheltered intervals) ∧
    ((∀ l, intervals.Perm l → smallestOf l = smallestOf intervals) ↔
      Float.nan ∉ intervals ∨ ∀ x ∈ intervals, ¬ 0 < x) ∧
    (0 < smallestOf intervals → ∀ more, 0 < smallestOf (intervals ++ more) ∧
      smallestOf (intervals ++ more) ≤ smallestOf intervals) ∧
    (∀ before x after, intervals = before ++ x :: after → x ≤ 0 →
      smallestOf intervals = smallestOf (before ++ after)) ∧
    ∀ before after, intervals = before ++ Float.nan :: after →
      (smallestOf intervals = smallestOf (before ++ after) ↔
        (∃ x ∈ before, 0 < x) ∨ ¬ Sheltered (before ++ after)) := by
  refine ⟨isSmallest_iff, smallestOf_eq_nan_iff, smallestOf_perm_iff, smallestOf_append_le, ?_, ?_⟩
  · rintro before x after rfl hx
    exact smallestOf_insert_of_le hx before after
  · rintro before after rfl
    exact smallestOf_insert_nan_iff

/-- An interval that is no number, and then one of five seconds; and the same the other way round. -/
theorem smallestOf_nan_first :
    smallestOf [Float.nan, 5] = Float.nan ∧ ¬ IsSmallest (smallestOf [Float.nan, 5]) [Float.nan, 5] ∧
      smallestOf [5, Float.nan] = 5 := by
  have hfirst : smallestOf [Float.nan, 5] = Float.nan := rfl
  refine ⟨hfirst, ?_, rfl⟩
  rw [hfirst]
  exact not_isSmallest_nan _

end SelfMetrics

end ScrapeBridge
