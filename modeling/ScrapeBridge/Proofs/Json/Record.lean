import Mathlib.Data.List.Forall2
import ScrapeBridge.Json.Record
import ScrapeBridge.Proofs.Table

namespace ScrapeBridge.Json

variable {α β : Type}

inductive IsText : Json → String → Prop
  | string (s : String) : IsText (.string (some s)) s

inductive IsFloat : Json → Float → Prop
  | number {n : Numeral} {x : Float} (h : n.toFloat? = some x) : IsFloat (.number n) x

inductive OrNull (instead : α) (R : Json → α → Prop) : Json → α → Prop
  | null : OrNull instead R .null instead
  | given {j : Json} {a : α} (h : R j a) : OrNull instead R j a

/-- A field that may be left out, or `null` as well. -/
inductive Optional (R : Json → α → Prop) : Option Json → Option α → Prop
  | absent : Optional R none none
  | null : Optional R (some .null) none
  | given {j : Json} {a : α} (h : R j a) : Optional R (some j) (some a)

inductive IsList (R : Json → α → Prop) : Json → List α → Prop
  | array {items : List Json} {l : List α} (h : List.Forall₂ R items l) : IsList R (.array items) l

def Field (name : String) (R : Json → α → Prop) (default : α) (members : List (String × Json))
    (a : α) : Prop :=
  (∃ j, (name, j) ∈ members ∧ R j a) ∨ (∀ j, (name, j) ∉ members) ∧ a = default

def ofMembers (members : List (String × Json)) : Json :=
  .object (members.map fun m => (some m.1, m.2))

def known (names : List String) (members : List (String × Json)) : List (String × Json) :=
  members.filter (·.1 ∈ names)

def NoRepeats (names : List String) (members : List (String × Json)) : Prop :=
  ((known names members).map (·.1)).Nodup

instance (names : List String) (members : List (String × Json)) :
    Decidable (NoRepeats names members) :=
  inferInstanceAs (Decidable (List.Nodup _))

section

variable {R : Json → α → Prop} {read : Json → Option α} {j : Json} {a : α}

theorem text?_eq_some_iff (j : Json) (s : String) : text? j = some s ↔ IsText j s := by
  constructor
  · intro h
    unfold text? at h
    split at h
    · subst h
      exact .string s
    · cases h
  · rintro ⟨⟩
    rfl

theorem float?_eq_some_iff (j : Json) (x : Float) : float? j = some x ↔ IsFloat j x := by
  constructor
  · intro h
    unfold float? at h
    split at h
    · exact .number h
    · cases h
  · rintro ⟨h⟩
    exact h

theorem mapM_eq_some_iff {f : β → Option α} {l : List β} {as : List α} :
    l.mapM f = some as ↔ List.Forall₂ (fun b a => f b = some a) l as := by
  induction l generalizing as with
  | nil => simp [eq_comm]
  | cons b l ih =>
    simp only [List.mapM_cons, Option.bind_eq_bind, Option.bind_eq_some_iff, Option.pure_def,
      Option.some.injEq, ih, List.forall₂_cons_left_iff]
    constructor
    · rintro ⟨a, ha, as', has', rfl⟩
      exact ⟨a, as', ha, has', rfl⟩
    · rintro ⟨a, as', ha, has', rfl⟩
      exact ⟨a, ha, as', has', rfl⟩

theorem map_mapM {γ : Type} (f : β → Option α) (g : α → γ) (l : List β) :
    (l.mapM f).map (List.map g) = l.mapM fun b => (f b).map g := by
  induction l with
  | nil => rfl
  | cons b l ih =>
    simp only [List.mapM_cons, Option.bind_eq_bind, Option.pure_def, ← ih]
    cases f b <;> cases l.mapM f <;> rfl

theorem list?_eq_some_iff (hread : ∀ j a, read j = some a ↔ R j a) (j : Json) (l : List α) :
    list? read j = some l ↔ IsList R j l := by
  constructor
  · intro h
    unfold list? at h
    split at h
    · exact .array ((mapM_eq_some_iff.mp h).imp fun j a => (hread j a).mp)
    · cases h
  · rintro ⟨h⟩
    exact mapM_eq_some_iff.mpr (h.imp fun j a => (hread j a).mpr)

theorem optional?_of_read (hread : read j = some a) (hnull : read .null = none) :
    optional? read j = some (some a) := by
  have hne : j ≠ .null := by
    rintro rfl
    rw [hnull] at hread
    cases hread
  simp [optional?, hread]

theorem optional?_eq_some_iff (hread : ∀ j a, read j = some a ↔ R j a)
    (hnull : read .null = none) (instead : α) (j : Json) (a : α) :
    (optional? read j).map (·.getD instead) = some a ↔ OrNull instead R j a := by
  constructor
  · intro h
    unfold optional? at h
    split at h
    · cases h
      exact .null
    · rw [Option.map_map] at h
      obtain ⟨b, hb, rfl⟩ := Option.map_eq_some_iff.mp h
      exact .given ((hread _ b).mp hb)
  · intro h
    cases h with
    | null => rfl
    | given h => rw [optional?_of_read ((hread j a).mpr h) hnull, Option.map_some, Option.getD_some]

theorem exists_forall₂_iff {S : β → α → Prop} {l : List β} :
    (∃ as, List.Forall₂ S l as) ↔ ∀ b ∈ l, ∃ a, S b a := by
  induction l with
  | nil => exact iff_of_true ⟨[], .nil⟩ (fun b hb => by cases hb)
  | cons b l ih =>
    rw [List.forall_mem_cons, ← ih]
    constructor
    · rintro ⟨as, h⟩
      cases h with
      | cons ha has => exact ⟨⟨_, ha⟩, _, has⟩
    · rintro ⟨⟨a, ha⟩, as, has⟩
      exact ⟨a :: as, .cons ha has⟩

theorem forall₂_congr_of_mem {S S' : β → α → Prop} {l : List β} {as : List α}
    (h : ∀ b ∈ l, ∀ a, S b a ↔ S' b a) : List.Forall₂ S l as ↔ List.Forall₂ S' l as := by
  have himp : ∀ {S S' : β → α → Prop}, (∀ b ∈ l, ∀ a, S b a → S' b a) →
      List.Forall₂ S l as → List.Forall₂ S' l as := fun h hS =>
    ((List.forall₂_and_left _ _).mpr ⟨h, hS⟩).imp fun b a hba => hba.1 a hba.2
  exact ⟨himp fun b hb a => (h b hb a).mp, himp fun b hb a => (h b hb a).mpr⟩

theorem exists_isList_iff :
    (∃ l, IsList R j l) ↔ ∃ items, j = .array items ∧ ∀ i ∈ items, ∃ a, R i a := by
  constructor
  · rintro ⟨l, ⟨h⟩⟩
    exact ⟨_, rfl, exists_forall₂_iff.mp ⟨l, h⟩⟩
  · rintro ⟨items, rfl, h⟩
    obtain ⟨l, hl⟩ := exists_forall₂_iff.mpr h
    exact ⟨l, .array hl⟩

theorem exists_orNull_iff {instead : α} :
    (∃ a, OrNull instead R j a) ↔ j = .null ∨ ∃ a, R j a := by
  constructor
  · rintro ⟨a, h⟩
    cases h with
    | null => exact .inl rfl
    | given h => exact .inr ⟨a, h⟩
  · rintro (rfl | ⟨a, h⟩)
    · exact ⟨instead, .null⟩
    · exact ⟨a, .given h⟩

theorem orDefault_eq_some_iff (hread : ∀ j a, read j = some a ↔ R j a) {default : α}
    {given : Option Json} : orDefault default read given = some a ↔
      (∃ j, given = some j ∧ R j a) ∨ given = none ∧ a = default := by
  cases given with
  | none => simp [orDefault, eq_comm]
  | some j => simp [orDefault, hread]

theorem orDefault_optional?_eq_some_iff (hread : ∀ j a, read j = some a ↔ R j a)
    (hnull : read .null = none) (given : Option Json) (o : Option α) :
    orDefault none (optional? read) given = some o ↔ Optional R given o := by
  constructor
  · intro h
    cases given with
    | none =>
      cases h
      exact .absent
    | some j =>
      rw [orDefault] at h
      unfold optional? at h
      split at h
      · cases h
        exact .null
      · obtain ⟨a, ha, rfl⟩ := Option.map_eq_some_iff.mp h
        exact .given ((hread _ a).mp ha)
  · intro h
    cases h with
    | absent => rfl
    | null => rfl
    | given h => exact optional?_of_read ((hread _ _).mpr h) hnull

end

section

variable {names : List String} {members members' : List (String × Json)} {name : String} {j : Json}

theorem members?_ofMembers (members : List (String × Json)) :
    members? (ofMembers members) = some members := by
  change (members.map fun m => (some m.1, m.2)).mapM _ = _
  rw [mapM_eq_some_iff, List.forall₂_map_left_iff]
  exact List.forall₂_same.mpr fun _ _ => rfl

theorem members?_eq_some_iff : members? j = some members ↔ j = ofMembers members := by
  constructor
  · intro h
    unfold members? at h
    split at h
    · have hkeys := mapM_eq_some_iff.mp h
      rw [ofMembers, Json.object.injEq]
      clear h
      induction hkeys with
      | nil => rfl
      | @cons m m' _ _ hm _ ih =>
        obtain ⟨k, i⟩ := m
        obtain ⟨s, rfl, rfl⟩ := Option.map_eq_some_iff.mp hm
        rw [List.map_cons, ih]
    · cases h
  · rintro rfl
    exact members?_ofMembers members

/-- What a field is given, if it is not given twice. -/
def given? (names : List String) (members : List (String × Json)) (name : String) : Option Json :=
  Table.lookup name (known names members)

/-- What a document gives the fields of a record: an object by their names, an array by their
order. -/
inductive Gives (names : List String) : Json → (String → Option Json) → Prop
  | object {members : List (String × Json)} (h : NoRepeats names members) :
      Gives names (ofMembers members) (given? names members)
  | array {items : List Json} (h : items.length ≤ names.length) :
      Gives names (.array items) fun name => items[names.idxOf name]?

theorem mem_known (hname : name ∈ names) :
    (name, j) ∈ known names members ↔ (name, j) ∈ members := by
  simp [known, hname]

theorem given?_eq_some_iff (h : NoRepeats names members) (hname : name ∈ names) :
    given? names members name = some j ↔ (name, j) ∈ members := by
  rw [← mem_known hname, given?, Table.lookup_eq_some h]

theorem atMostOne?_named (h : NoRepeats names members) (hname : name ∈ names) :
    atMostOne? (named name members) = some (given? names members name) := by
  have hnamed : named name members = (given? names members name).toList := by
    have hfilter : members.filter (·.1 = name) = (known names members).filter (·.1 = name) := by
      rw [known, List.filter_filter]
      refine List.filter_congr fun m _ => ?_
      by_cases hm : m.1 = name <;> simp [hm, hname]
    rw [named, hfilter, Table.filter_key h, given?]
    cases Table.lookup name (known names members) <;> rfl
  rw [hnamed]
  cases given? names members name <;> rfl

theorem fields?_ofMembers (h : NoRepeats names members) :
    fields? names (ofMembers members) = some (names.map (given? names members)) := by
  have hfields : fields? names (ofMembers members) =
      names.mapM fun name => atMostOne? (named name members) := by
    change (members? (ofMembers members)).bind _ = _
    rw [members?_ofMembers, Option.bind_some]
  rw [hfields, mapM_eq_some_iff, List.forall₂_map_right_iff]
  exact List.forall₂_same.mpr fun name hname => atMostOne?_named h hname

theorem length_le_one_of_atMostOne? {l : List Json} {o : Option Json} (h : atMostOne? l = some o) :
    l.length ≤ 1 := by
  unfold atMostOne? at h
  split at h
  · exact Nat.zero_le 1
  · exact Nat.le_refl 1
  · cases h

theorem count_known (hname : name ∈ names) :
    ((known names members).map (·.1)).count name = (named name members).length := by
  have hcount : (known names members).countP (·.1 = name) = members.countP (·.1 = name) := by
    rw [known, List.countP_filter]
    refine List.countP_congr fun m _ => ?_
    by_cases hm : m.1 = name <;> simp [hm, hname]
  rw [named, List.length_map, ← List.countP_eq_length_filter, ← hcount, List.count, List.countP_map]
  rfl

theorem noRepeats_of_mapM {l : List (Option Json)}
    (h : names.mapM (fun name => atMostOne? (named name members)) = some l) :
    NoRepeats names members := by
  refine List.nodup_iff_count_le_one.mpr fun name => ?_
  by_cases hname : name ∈ names
  · obtain ⟨o, ho⟩ := exists_forall₂_iff.mp ⟨l, mapM_eq_some_iff.mp h⟩ name hname
    rw [count_known hname]
    exact length_le_one_of_atMostOne? ho
  · rw [List.count_eq_zero_of_not_mem]
    · exact Nat.zero_le 1
    · intro hmem
      obtain ⟨m, hm, rfl⟩ := List.mem_map.mp hmem
      exact hname (of_decide_eq_true (List.mem_filter.mp hm).2)

theorem fields?_array (hnames : names.Nodup) {items : List Json} (h : items.length ≤ names.length) :
    items.map some ++ List.replicate (names.length - items.length) none =
      names.map fun name => items[names.idxOf name]? := by
  apply List.ext_getElem
  · simp
    omega
  · intro i h₁ h₂
    rw [List.getElem_map, hnames.idxOf_getElem]
    grind

theorem fields?_eq_some_iff (hnames : names.Nodup) {l : List (Option Json)} :
    fields? names j = some l ↔ ∃ given, Gives names j given ∧ l = names.map given := by
  constructor
  · intro h
    unfold fields? at h
    split at h
    · split at h
      case isTrue hlength =>
        cases h
        exact ⟨_, .array hlength, fields?_array hnames hlength⟩
      case isFalse => cases h
    · obtain ⟨members, hmembers, hfields⟩ := Option.bind_eq_some_iff.mp h
      cases members?_eq_some_iff.mp hmembers
      -- A repeated field would have been refused, so every field has what `given?` finds.
      have hrepeats := noRepeats_of_mapM hfields
      refine ⟨_, .object hrepeats, ?_⟩
      have hgiven := fields?_ofMembers hrepeats
      exact Option.some.inj (h.symm.trans hgiven)
  · rintro ⟨_, ⟨h⟩ | ⟨h⟩, rfl⟩
    · exact fields?_ofMembers h
    · rw [fields?, if_pos h, fields?_array hnames h]

theorem orDefault_given? (h : NoRepeats names members) (hname : name ∈ names)
    {R : Json → α → Prop} {read : Json → Option α} (hread : ∀ j a, read j = some a ↔ R j a)
    {default a : α} : orDefault default read (given? names members name) = some a ↔
      Field name R default members a := by
  rw [orDefault_eq_some_iff hread, Option.eq_none_iff_forall_ne_some, Field]
  simp only [Ne, given?_eq_some_iff h hname]

theorem Field.of_missing {R : Json → α → Prop} {default : α} (h : name ∉ members.map (·.1)) :
    Field name R default members default := by
  refine .inr ⟨fun j hj => h ?_, rfl⟩
  exact List.mem_map.mpr ⟨(name, j), hj, rfl⟩

theorem field_iff_of_mem (h : NoRepeats names members) (hname : name ∈ names)
    (hj : (name, j) ∈ members) {R : Json → α → Prop} {default a : α} :
    Field name R default members a ↔ R j a := by
  constructor
  · rintro (⟨j', hj', ha⟩ | ⟨hmissing, -⟩)
    · have hsame : some j = some j' := by
        rw [← (given?_eq_some_iff h hname).mpr hj, (given?_eq_some_iff h hname).mpr hj']
      cases hsame
      exact ha
    · exact absurd hj (hmissing j)
  · intro ha
    exact .inl ⟨j, hj, ha⟩

theorem exists_field_iff (h : NoRepeats names members) (hname : name ∈ names)
    {R : Json → α → Prop} {default : α} :
    (∃ a, Field name R default members a) ↔ ∀ j, (name, j) ∈ members → ∃ a, R j a := by
  constructor
  · rintro ⟨a, ha⟩ j hj
    exact ⟨a, (field_iff_of_mem h hname hj).mp ha⟩
  · intro hgiven
    by_cases hmissing : ∀ j, (name, j) ∉ members
    · exact ⟨default, .inr ⟨hmissing, rfl⟩⟩
    · obtain ⟨j, hj⟩ := not_forall_not.mp hmissing
      obtain ⟨a, ha⟩ := hgiven j hj
      exact ⟨a, .inl ⟨j, hj, ha⟩⟩

theorem NoRepeats.perm (h : NoRepeats names members)
    (hperm : (known names members).Perm (known names members')) : NoRepeats names members' :=
  (hperm.map _).nodup_iff.mp h

theorem given?_eq_of_perm (h : NoRepeats names members)
    (hperm : (known names members).Perm (known names members')) (hname : name ∈ names) :
    given? names members name = given? names members' name := by
  apply Option.ext
  intro j
  have hmem : (name, j) ∈ members ↔ (name, j) ∈ members' := by
    rw [← mem_known hname, hperm.mem_iff, mem_known hname]
  rw [given?_eq_some_iff h hname, given?_eq_some_iff (h.perm hperm) hname, hmem]

end

end ScrapeBridge.Json
