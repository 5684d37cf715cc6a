import Mathlib.Data.List.DropRight
import Mathlib.Data.List.Infix
import ScrapeBridge.Text.Blank
import ScrapeBridge.Text.Pieces

namespace ScrapeBridge.Text

variable {p : Char → Bool} {s t separator before after before' after' : List Char} {c : Char}

structure Tidy (p : Char → Bool) (t : List Char) : Prop where
  first : ∀ c ∈ t.head?, p c = false
  last : ∀ c ∈ t.getLast?, p c = false

/-- What is left of a text without the characters of a class at its ends. -/
structure IsTrim (p : Char → Bool) (s t : List Char) : Prop where
  around : ∃ front back, s = front ++ t ++ back ∧ (∀ c ∈ front, p c = true) ∧ ∀ c ∈ back, p c = true
  tidy : Tidy p t

theorem tidy_nil : Tidy p [] where
  first := by simp
  last := by simp

theorem trim_eq_rdropWhile (p : Char → Bool) (s : List Char) :
    trim p s = (s.dropWhile p).rdropWhile p := rfl

theorem getLast?_rdropWhile (p : Char → Bool) (l : List Char) :
    ∀ c ∈ (l.rdropWhile p).getLast?, p c = false := by
  intro c hc
  obtain ⟨hne, rfl⟩ := List.mem_getLast?_eq_getLast hc
  exact Bool.eq_false_iff.mpr (List.rdropWhile_last_not p l hne)

theorem isTrim_trim (p : Char → Bool) (s : List Char) : IsTrim p s (trim p s) := by
  have hfront : s.takeWhile p ++ s.dropWhile p = s := List.takeWhile_append_dropWhile
  have hback : trim p s ++ (s.dropWhile p).rtakeWhile p = s.dropWhile p :=
    List.rdropWhile_append_rtakeWhile
  refine ⟨⟨s.takeWhile p, (s.dropWhile p).rtakeWhile p, ?_, ?_, ?_⟩, ?_, ?_⟩
  · rw [List.append_assoc, hback, hfront]
  · exact fun c hc => List.mem_takeWhile_imp hc
  · exact fun c hc => List.mem_rtakeWhile_imp hc
  · intro c hc
    have hhead : (s.dropWhile p).head? = some c := by
      rw [← hback, List.head?_append, Option.mem_def.mp hc]
      rfl
    have hnot := List.head?_dropWhile_not p s
    rw [hhead] at hnot
    exact hnot
  · exact getLast?_rdropWhile p (s.dropWhile p)

theorem dropWhile_append_tidy {front l : List Char} (hfront : ∀ c ∈ front, p c = true)
    (hl : ∀ c ∈ l.head?, p c = false) : (front ++ l).dropWhile p = l := by
  rw [List.dropWhile_append_of_pos hfront]
  cases l with
  | nil => rfl
  | cons c l => rw [List.dropWhile_cons_of_neg (by simp [hl c rfl])]

theorem rdropWhile_append_tidy {l back : List Char} (hback : ∀ c ∈ back, p c = true)
    (hl : ∀ c ∈ l.getLast?, p c = false) : (l ++ back).rdropWhile p = l := by
  rw [List.rdropWhile, List.reverse_append, dropWhile_append_tidy (by simpa using hback),
    List.reverse_reverse]
  rwa [List.head?_reverse]

theorem IsTrim.trim_eq (h : IsTrim p s t) : trim p s = t := by
  obtain ⟨⟨front, back, rfl, hfront, hback⟩, htidy⟩ := h
  rw [trim_eq_rdropWhile]
  by_cases ht : t = []
  · subst ht
    have hall : ∀ c ∈ front ++ [] ++ back, p c = true := by
      intro c hc
      rw [List.append_nil, List.mem_append] at hc
      exact hc.elim (hfront c) (hback c)
    rw [List.dropWhile_eq_nil_iff.mpr hall, List.rdropWhile_nil]
  · have hhead : ∀ c ∈ (t ++ back).head?, p c = false := by
      rw [List.head?_append_of_ne_nil _ ht]
      exact htidy.first
    rw [List.append_assoc, dropWhile_append_tidy hfront hhead,
      rdropWhile_append_tidy hback htidy.last]

theorem isTrim_self (h : Tidy p t) : IsTrim p t t :=
  ⟨⟨[], [], by simp, by simp, by simp⟩, h⟩

theorem trim_trim (p : Char → Bool) (s : List Char) : trim p (trim p s) = trim p s :=
  (isTrim_self (isTrim_trim p s).tidy).trim_eq

theorem trim_eq_nil_iff : trim p s = [] ↔ ∀ c ∈ s, p c = true := by
  constructor
  · intro h c hc
    obtain ⟨⟨front, back, hs, hfront, hback⟩, -⟩ := isTrim_trim p s
    rw [h, List.append_nil] at hs
    rw [hs, List.mem_append] at hc
    exact hc.elim (hfront c) (hback c)
  · exact fun h => IsTrim.trim_eq ⟨⟨s, [], by simp, h, by simp⟩, tidy_nil⟩

/-- The text before the first occurrence of a separator, and the text after it. -/
structure Cuts (separator s before after : List Char) : Prop where
  parts : s = before ++ separator ++ after
  first : ∀ b a, s = b ++ separator ++ a → before.length ≤ b.length

theorem Cuts.unique (h : Cuts separator s before after) (h' : Cuts separator s before' after') :
    before = before' ∧ after = after' := by
  have hlength : before.length = before'.length :=
    Nat.le_antisymm (h.first _ _ h'.parts) (h'.first _ _ h.parts)
  have hparts := h.parts.symm.trans h'.parts
  rw [List.append_assoc, List.append_assoc] at hparts
  obtain ⟨hbefore, hrest⟩ := List.append_inj hparts hlength
  exact ⟨hbefore, List.append_cancel_left hrest⟩

theorem Cuts.occurs (h : Cuts separator s before after) : separator <:+: s :=
  ⟨before, after, h.parts.symm⟩

theorem cuts_of_not_mem (separator : List Char) (h : c ∉ before) (after : List Char) :
    Cuts (c :: separator) (before ++ c :: separator ++ after) before after where
  parts := rfl
  first := by
    intro b a hparts
    by_contra hlt
    rw [Nat.not_le] at hlt
    have hchar := congrArg (·[b.length]?) hparts
    simp only [List.append_assoc, List.getElem?_append_left hlt, List.getElem?_append_right
      (Nat.le_refl b.length), Nat.sub_self, List.cons_append, List.getElem?_cons_zero] at hchar
    exact h (List.mem_of_getElem? hchar)

theorem cuts_singleton_iff :
    Cuts [c] s before after ↔ s = before ++ c :: after ∧ c ∉ before := by
  constructor
  · intro h
    refine ⟨by simpa using h.parts, fun hmem => ?_⟩
    obtain ⟨b, a, rfl⟩ := List.append_of_mem hmem
    have hle := h.first b (a ++ c :: after) (by simpa using h.parts)
    rw [List.length_append, List.length_cons] at hle
    omega
  · rintro ⟨rfl, hc⟩
    simpa using cuts_of_not_mem [] hc after

theorem occurs_of_cons (hstart : separator.isPrefixOf (c :: s) = false)
    (h : separator <:+: c :: s) : separator <:+: s := by
  rcases List.infix_cons_iff.mp h with hnow | hlater
  · rw [List.isPrefixOf_iff_prefix.mpr hnow] at hstart
    cases hstart
  · exact hlater

theorem cut?_spec (separator s : List Char) :
    match cut? separator s with
    | some (before, after) => Cuts separator s before after
    | none => ¬ separator <:+: s := by
  induction s with
  | nil =>
    rw [cut?]
    cases separator with
    | nil => exact ⟨rfl, fun _ _ _ => Nat.zero_le _⟩
    | cons c separator => simp
  | cons c s ih =>
    rw [cut?]
    by_cases hstart : separator.isPrefixOf (c :: s) = true
    · rw [if_pos hstart]
      obtain ⟨after, hafter⟩ := List.isPrefixOf_iff_prefix.mp hstart
      refine ⟨?_, fun _ _ _ => Nat.zero_le _⟩
      rw [← hafter, List.drop_left, List.nil_append]
    · rw [if_neg hstart]
      have hlater := occurs_of_cons (Bool.eq_false_iff.mpr hstart)
      cases hcut : cut? separator s with
      | none =>
        rw [hcut] at ih
        exact fun h => ih (hlater h)
      | some parts =>
        rw [hcut] at ih
        refine ⟨by rw [ih.parts]; rfl, fun b a hparts => ?_⟩
        -- A cut that leaves nothing in front would have the separator right at the start.
        cases b with
        | nil => exact absurd (List.isPrefixOf_iff_prefix.mpr ⟨a, hparts.symm⟩) hstart
        | cons d b =>
          rw [List.cons_append, List.cons_append, List.cons.injEq] at hparts
          exact Nat.succ_le_succ (ih.first b a hparts.2)

theorem cut?_eq_some_iff :
    cut? separator s = some (before, after) ↔ Cuts separator s before after := by
  have hspec := cut?_spec separator s
  constructor
  · intro h
    rw [h] at hspec
    exact hspec
  · intro h
    cases hcut : cut? separator s with
    | none =>
      rw [hcut] at hspec
      exact absurd h.occurs hspec
    | some parts =>
      rw [hcut] at hspec
      obtain ⟨hbefore, hafter⟩ := h.unique hspec
      rw [hbefore, hafter]

theorem cut?_eq_none_iff : cut? separator s = none ↔ ¬ separator <:+: s := by
  have hspec := cut?_spec separator s
  cases hcut : cut? separator s with
  | none =>
    rw [hcut] at hspec
    exact iff_of_true rfl hspec
  | some parts =>
    rw [hcut] at hspec
    exact iff_of_false (by simp) (not_not_intro hspec.occurs)

end ScrapeBridge.Text
