import Mathlib.Data.List.Nodup
import ScrapeBridge.Table

namespace ScrapeBridge.Table

variable {α β : Type}

def lookup (k : String) (l : List (String × α)) : Option α := (l.find? (·.1 = k)).map (·.2)

theorem lookup_cons (k : String) (e : String × α) (l : List (String × α)) :
    lookup k (e :: l) = if e.1 = k then some e.2 else lookup k l := by
  unfold lookup
  by_cases h : e.1 = k <;> simp [h]

theorem filter_key {k : String} {l : List (String × α)} (hl : (l.map (·.1)).Nodup) :
    l.filter (·.1 = k) = ((lookup k l).map (k, ·)).toList := by
  induction l with
  | nil => rfl
  | cons e l ih =>
    rw [List.map_cons, List.nodup_cons] at hl
    rw [lookup_cons, List.filter_cons]
    by_cases h : e.1 = k
    · have hk : l.filter (·.1 = k) = [] := by
        rw [List.filter_eq_nil_iff]
        intro d hd hdk
        exact hl.1 (List.mem_map.mpr ⟨d, hd, (of_decide_eq_true hdk).trans h.symm⟩)
      obtain ⟨k', v⟩ := e
      obtain rfl : k' = k := h
      simp [hk]
    · simp [h, ih hl.2]

/-- Where no key is repeated, the entries of a list are what can be looked up in it. -/
theorem lookup_eq_some {k : String} {v : α} {l : List (String × α)} (hl : (l.map (·.1)).Nodup) :
    lookup k l = some v ↔ (k, v) ∈ l := by
  have hfilter : (k, v) ∈ l ↔ (k, v) ∈ l.filter (·.1 = k) := by simp
  rw [hfilter, filter_key hl, Option.mem_toList, Option.map_eq_some_iff]
  simp

theorem lookup_insertEntry (k k' : String) (v : α) (l : List (String × α)) :
    lookup k' (insertEntry k v l) = if k = k' then some v else lookup k' l := by
  induction l with
  | nil => rw [insertEntry, lookup_cons]
  | cons e l ih =>
    rw [insertEntry]
    split
    case isTrue hk => rw [lookup_cons]
    case isFalse hk =>
      split
      case isTrue he =>
        have hne : e.1 ≠ k := fun h => String.lt_irrefl k (h ▸ he)
        rw [lookup_cons, ih, lookup_cons]
        by_cases h : e.1 = k'
        · rw [if_pos h, if_pos h, if_neg (h ▸ hne.symm)]
        · rw [if_neg h, if_neg h]
      case isFalse he =>
        have heq : e.1 = k := String.le_antisymm (String.not_lt.mp hk) (String.not_lt.mp he)
        rw [lookup_cons, lookup_cons, heq]
        split <;> rfl

@[simp] theorem get?_empty (k : String) : (∅ : Table α).get? k = none := rfl

theorem get?_insert (t : Table α) (k k' : String) (v : α) :
    (t.insert k v).get? k' = if k = k' then some v else t.get? k' :=
  lookup_insertEntry k k' v t.entries

@[simp] theorem get?_insert_self (t : Table α) (k : String) (v : α) :
    (t.insert k v).get? k = some v := by
  rw [get?_insert, if_pos rfl]

theorem get?_insert_of_ne (t : Table α) {k k' : String} (v : α) (h : k ≠ k') :
    (t.insert k v).get? k' = t.get? k' := by
  rw [get?_insert, if_neg h]

theorem get?_insertIfNew (t : Table α) (k k' : String) (v : α) :
    (t.insertIfNew k v).get? k' = if k = k' then some ((t.get? k).getD v) else t.get? k' := by
  unfold insertIfNew
  cases h : t.get? k with
  | none => simp [get?_insert]
  | some w =>
    by_cases hk : k = k'
    · subst hk
      simp [h]
    · simp [hk]

theorem of_get?_insert {t : Table α} {k k' : String} {v w : α}
    (h : (t.insert k v).get? k' = some w) : k' = k ∨ t.get? k' = some w := by
  by_cases hk : k = k'
  · exact .inl hk.symm
  · rw [get?_insert, if_neg hk] at h
    exact .inr h

theorem of_get?_insertIfNew {t : Table α} {k k' : String} {v w : α}
    (h : (t.insertIfNew k v).get? k' = some w) : k' = k ∨ t.get? k' = some w := by
  by_cases hk : k = k'
  · exact .inl hk.symm
  · rw [get?_insertIfNew, if_neg hk] at h
    exact .inr h

theorem nodup_keys (t : Table α) : (t.entries.map (·.1)).Nodup := by
  rw [List.nodup_iff_pairwise_ne, List.pairwise_map]
  refine t.sorted.imp ?_
  intro a b hab h
  exact String.lt_irrefl b.1 (h ▸ hab)

theorem mem_entries {t : Table α} {k : String} {v : α} : (k, v) ∈ t.entries ↔ t.get? k = some v :=
  (lookup_eq_some t.nodup_keys).symm

theorem get?_filterMap (f : α → Option β) (t : Table α) (k : String) :
    (t.filterMap f).get? k = (t.get? k).bind f := by
  apply Option.ext
  intro w
  rw [← mem_entries, Option.bind_eq_some_iff]
  simp only [filterMap, List.mem_filterMap, Option.map_eq_some_iff, Prod.mk.injEq]
  constructor
  · rintro ⟨⟨k', v⟩, hm, w', hw, rfl, rfl⟩
    exact ⟨v, mem_entries.mp hm, hw⟩
  · rintro ⟨v, hv, hw⟩
    exact ⟨(k, v), mem_entries.mpr hv, w, hw, rfl, rfl⟩

/-- Tables in which the same can be looked up are the same. -/
theorem ext_get? {t u : Table α} (h : ∀ k, t.get? k = u.get? k) : t = u := by
  have hentries : t.entries.Perm u.entries := by
    refine (List.perm_ext_iff_of_nodup (List.Nodup.of_map _ t.nodup_keys)
      (List.Nodup.of_map _ u.nodup_keys)).mpr ?_
    rintro ⟨k, v⟩
    rw [mem_entries, mem_entries, h]
  have hsame : t.entries = u.entries :=
    hentries.eq_of_pairwise (fun a b _ _ hab hba => (String.lt_asymm hab hba).elim) t.sorted u.sorted
  cases t
  cases u
  cases hsame
  rfl

theorem mem_keys {t : Table α} {k : String} : k ∈ t.keys ↔ ∃ v, t.get? k = some v := by
  unfold keys
  rw [List.mem_map]
  constructor
  · rintro ⟨⟨k', v⟩, he, rfl⟩
    exact ⟨v, mem_entries.mp he⟩
  · rintro ⟨v, hv⟩
    exact ⟨(k, v), mem_entries.mpr hv, rfl⟩

theorem filter_entries (t : Table α) (k : String) :
    t.entries.filter (·.1 = k) = ((t.get? k).map (k, ·)).toList :=
  filter_key t.nodup_keys

theorem isEmpty_iff (t : Table α) : t.isEmpty = true ↔ ∀ k, t.get? k = none := by
  rw [isEmpty, List.isEmpty_iff, List.eq_nil_iff_forall_not_mem]
  constructor
  · intro h k
    rw [Option.eq_none_iff_forall_not_mem]
    exact fun v hv => h (k, v) (mem_entries.mpr hv)
  · rintro h ⟨k, v⟩ he
    have hv := mem_entries.mp he
    rw [h k] at hv
    cases hv

theorem find?_keys_insert_of_false {q : String → Bool} {k : String} (hk : q k = false)
    (t : Table α) (v : α) : (t.insert k v).keys.find? q = t.keys.find? q := by
  obtain ⟨l, hl⟩ := t
  simp only [insert, keys]
  clear hl
  induction l with
  | nil => simp [insertEntry, hk]
  | cons e l ih =>
    rw [insertEntry]
    split
    case isTrue => simp [hk]
    case isFalse hlt =>
      split
      case isTrue => simp only [List.map_cons, List.find?_cons, ih]
      case isFalse hgt =>
        have heq : e.1 = k := String.le_antisymm (String.not_lt.mp hlt) (String.not_lt.mp hgt)
        simp [heq, hk]

theorem find?_keys_insert_of_true {q : String → Bool} {k : String} (hk : q k = true)
    {t : Table α} (ht : ∀ k', t.keys.find? q = some k' → k' = k) (v : α) :
    (t.insert k v).keys.find? q = some k := by
  obtain ⟨l, hl⟩ := t
  simp only [insert, keys] at ht ⊢
  clear hl
  induction l with
  | nil => simp [insertEntry, hk]
  | cons e l ih =>
    rw [insertEntry]
    split
    case isTrue => simp [hk]
    case isFalse =>
      split
      case isFalse => simp [hk]
      case isTrue hlt =>
        have he : q e.1 = false := by
          rw [Bool.eq_false_iff]
          intro hqe
          have hek := ht e.1 (by simp [hqe])
          exact String.lt_irrefl k (hek ▸ hlt)
        rw [List.map_cons, List.find?_cons, he]
        apply ih
        intro k' hk'
        exact ht k' (by simp [he, hk'])

end ScrapeBridge.Table
