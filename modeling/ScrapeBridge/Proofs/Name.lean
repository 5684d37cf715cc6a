import Mathlib.Data.List.Forall2
import ScrapeBridge.Name

namespace ScrapeBridge

theorem append_inj_of_length {s t s' t' : String} (h : s ++ t = s' ++ t')
    (hlength : s.length = s'.length) : s = s' ∧ t = t' := by
  have hlists : s.toList ++ t.toList = s'.toList ++ t'.toList := by
    rw [← String.toList_append, h, String.toList_append]
  obtain ⟨hs, ht⟩ := List.append_inj hlists (by simpa only [String.length_toList] using hlength)
  exact ⟨String.toList_inj.mp hs, String.toList_inj.mp ht⟩

def joined : List String → String
  | [] => ""
  | s :: l => "_" ++ s ++ joined l

section

variable {s t : String}

theorem toList_labelName (hs : s ≠ "") :
    (labelName s).toList = s.toList.map fun c =>
      if isNameChar c then (if c = ':' then '_' else c) else '_' := by
  have hempty : s.isEmpty = false := by
    rw [Bool.eq_false_iff, Ne, String.isEmpty_iff]
    exact hs
  rw [labelName, hempty, if_neg Bool.false_ne_true, String.toList_map, metricName,
    String.toList_map, List.map_map]
  refine List.map_congr_left fun c _ => ?_
  by_cases hc : isNameChar c = true <;> simp [hc]

theorem length_labelName (hs : s ≠ "") : (labelName s).length = s.length := by
  rw [← String.length_toList, toList_labelName hs, List.length_map, String.length_toList]

theorem toList_metricName (s : String) :
    (metricName s).toList = s.toList.map fun c => if isNameChar c then c else '_' :=
  String.toList_map

theorem metricName_append (s t : String) : metricName (s ++ t) = metricName s ++ metricName t := by
  apply String.toList_inj.mp
  simp only [toList_metricName, String.toList_append, List.map_append]

theorem metricName_of_clean (h : s.toList.all isNameChar = true) : metricName s = s := by
  apply String.toList_inj.mp
  rw [toList_metricName]
  conv_rhs => rw [← List.map_id s.toList]
  exact List.map_congr_left fun c hc => if_pos (List.all_eq_true.mp h c hc)

theorem isNameChar_of_mem_metricName {c : Char} (h : c ∈ (metricName s).toList) :
    isNameChar c = true := by
  rw [toList_metricName] at h
  obtain ⟨d, -, rfl⟩ := List.mem_map.mp h
  by_cases hd : isNameChar d = true
  · rwa [if_pos hd]
  · rw [if_neg hd]
    rfl

def isHidden (c : Char) : Bool := c = '_' || !isNameChar c

/-- Texts of one length that differ only where names show underscores. -/
def ReadsAlike (s t : String) : Prop :=
  List.Forall₂ (fun c d => c = d ∨ isHidden c ∧ isHidden d) s.toList t.toList

theorem shown_eq_iff (c d : Char) :
    ((if isNameChar c then c else '_') = if isNameChar d then d else '_') ↔
      c = d ∨ isHidden c ∧ isHidden d := by
  have hunderscore : isNameChar '_' = true := rfl
  by_cases hc : isNameChar c = true <;> by_cases hd : isNameChar d = true
  · simp only [isHidden, hc, hd, if_true, Bool.not_true, Bool.or_false, decide_eq_true_eq]
    constructor
    · exact .inl
    · rintro (heq | ⟨hc', hd'⟩)
      · exact heq
      · rw [hc', hd']
  · have hne : c ≠ d := fun heq => hd (heq ▸ hc)
    simp [isHidden, hc, hd, hne]
  · have hne : c ≠ d := fun heq => hc (heq ▸ hd)
    simp [isHidden, hc, hd, hne, eq_comm]
  · simp [isHidden, hc, hd]

/-- A name tells of a text what reads alike, and nothing else. -/
theorem metricName_eq_iff : metricName s = metricName t ↔ ReadsAlike s t := by
  rw [← String.toList_inj, toList_metricName, toList_metricName, ← List.forall₂_eq_eq_eq,
    List.forall₂_map_left_iff, List.forall₂_map_right_iff, ReadsAlike]
  simp only [shown_eq_iff]

theorem eq_of_labelName_eq (h : labelName s = t) (hplugin : t ≠ "plugin") (ht : '_' ∉ t.toList) :
    s = t := by
  by_cases hs : s = ""
  · subst hs
    exact absurd h.symm hplugin
  · rw [← h, toList_labelName hs] at ht
    rw [← h]
    apply String.ext
    rw [toList_labelName hs]
    conv_lhs => rw [← List.map_id s.toList]
    refine List.map_congr_left fun c hc => ?_
    have hclean := fun heq => ht (List.mem_map.mpr ⟨c, hc, heq⟩)
    by_cases hname : isNameChar c = true <;> by_cases hcolon : c = ':' <;> simp_all

theorem eq_empty_of_labelName {l : List Char} (hs : s.toList <+: l) (hl : l.head?.getD '_' = '_')
    (h : labelName s = labelName "") : s = "" := by
  by_contra hne
  obtain ⟨c, rest, hc⟩ := List.exists_cons_of_ne_nil (mt String.toList_eq_nil_iff.mp hne)
  rw [hc] at hs
  obtain ⟨after, rfl⟩ := hs
  obtain rfl : c = '_' := hl
  have hfirst := congrArg (fun s => s.toList.head?) h
  simp only [toList_labelName hne, hc, List.map_cons, List.head?_cons] at hfirst
  revert hfirst
  decide

/-- Of texts that begin the same text only one can have a label name. -/
theorem eq_of_labelName {l : List Char} (hs : s.toList <+: l) (ht : t.toList <+: l)
    (hl : s = "" ∨ t = "" → l.head?.getD '_' = '_') (h : labelName s = labelName t) : s = t := by
  by_cases hsempty : s = ""
  · rw [hsempty] at h hl ⊢
    exact (eq_empty_of_labelName ht (hl (.inl rfl)) h.symm).symm
  · by_cases htempty : t = ""
    · rw [htempty] at h hl ⊢
      exact eq_empty_of_labelName hs (hl (.inr rfl)) h
    · have hlength : s.toList.length = t.toList.length := by
        rw [String.length_toList, String.length_toList, ← length_labelName hsempty, h,
          length_labelName htempty]
      have hbegins := List.prefix_of_prefix_length_le hs ht (Nat.le_of_eq hlength)
      exact String.toList_inj.mp (hbegins.eq_of_length hlength)

end

end ScrapeBridge
