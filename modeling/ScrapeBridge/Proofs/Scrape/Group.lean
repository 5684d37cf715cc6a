import Mathlib.Data.List.Induction
import ScrapeBridge.Proofs.Table
import ScrapeBridge.Scrape

namespace ScrapeBridge.Scrape

variable {readings : List Reading} {r : Reading} {f : Family} {name : String}

def grouped? (readings : List Reading) (name : String) : Option Family :=
  (readings.find? (·.name = name)).map fun first =>
    ⟨name, first.help, first.kind,
      (readings.filter fun r => r.name = name && r.kind = first.kind).map metric⟩

theorem grouped?_concat_of_ne (h : r.name ≠ name) :
    grouped? (readings ++ [r]) name = grouped? readings name := by
  simp [grouped?, h]

theorem grouped?_concat_self (readings : List Reading) (r : Reading) :
    grouped? (readings ++ [r]) r.name = some (match grouped? readings r.name with
      | some f => if f.kind = r.kind then { f with metrics := f.metrics ++ [metric r] } else f
      | none => ⟨r.name, r.help, r.kind, [metric r]⟩) := by
  unfold grouped?
  rw [List.find?_append]
  cases hfirst : readings.find? (·.name = r.name) with
  | some first =>
    by_cases hkind : first.kind = r.kind
    · simp [hkind]
    · simp [hkind, eq_comm (a := r.kind)]
  | none =>
    have hnone : ∀ d ∈ readings, d.name ≠ r.name := by simpa using hfirst
    have hfilter : (readings.filter fun d => d.name = r.name && d.kind = r.kind) = [] := by
      simp only [List.filter_eq_nil_iff, Bool.and_eq_true, decide_eq_true_eq]
      exact fun d hd hboth => hnone d hd hboth.1
    simp [hfilter]

theorem get?_addReading (t : Table Family) (r : Reading) (name : String) :
    (addReading t r).get? name = if r.name = name then
      some (match t.get? r.name with
        | some f => if f.kind = r.kind then { f with metrics := f.metrics ++ [metric r] } else f
        | none => ⟨r.name, r.help, r.kind, [metric r]⟩)
      else t.get? name := by
  unfold addReading
  cases hfirst : t.get? r.name with
  | none => exact Table.get?_insert _ _ _ _
  | some f =>
    dsimp only
    split
    case isTrue => exact Table.get?_insert _ _ _ _
    case isFalse =>
      split
      case isTrue hname => rw [← hname, hfirst]
      case isFalse => rfl

theorem get?_foldl_addReading (readings : List Reading) (name : String) :
    (readings.foldl addReading ∅).get? name = grouped? readings name := by
  induction readings using List.reverseRecOn generalizing name with
  | nil => rfl
  | append_singleton readings r ih =>
    rw [List.foldl_append, List.foldl_cons, List.foldl_nil, get?_addReading, ih, ih]
    by_cases hname : r.name = name
    · rw [if_pos hname, ← hname, grouped?_concat_self]
    · rw [if_neg hname, grouped?_concat_of_ne hname]

theorem name_of_grouped? (h : grouped? readings name = some f) : f.name = name := by
  obtain ⟨first, -, rfl⟩ := Option.map_eq_some_iff.mp h
  rfl

theorem mem_group : f ∈ group readings ↔ grouped? readings f.name = some f := by
  unfold group
  rw [List.mem_map]
  constructor
  · rintro ⟨⟨name, f⟩, he, rfl⟩
    have hf := Table.mem_entries.mp he
    rw [get?_foldl_addReading] at hf
    exact (name_of_grouped? hf).symm ▸ hf
  · intro h
    exact ⟨(f.name, f), Table.mem_entries.mpr ((get?_foldl_addReading readings f.name).trans h), rfl⟩

theorem names_group (readings : List Reading) :
    (group readings).map (·.name) = (readings.foldl addReading ∅).keys := by
  unfold group Table.keys
  rw [List.map_map]
  refine List.map_congr_left ?_
  rintro ⟨name, f⟩ he
  have hf := Table.mem_entries.mp he
  rw [get?_foldl_addReading] at hf
  exact name_of_grouped? hf

theorem nodup_names_group (readings : List Reading) : ((group readings).map (·.name)).Nodup := by
  rw [names_group]
  exact Table.nodup_keys _

theorem kind_of_grouped? (h : grouped? readings name = some f) {x : Metric} (hx : x ∈ f.metrics) :
    x.kind = f.kind := by
  obtain ⟨first, -, rfl⟩ := Option.map_eq_some_iff.mp h
  obtain ⟨r, hr, rfl⟩ := List.mem_map.mp hx
  have hboth := (List.mem_filter.mp hr).2
  rw [Bool.and_eq_true] at hboth
  exact of_decide_eq_true hboth.2

theorem exists_reading_of_grouped? (h : grouped? readings name = some f) :
    ∃ r ∈ readings, r.name = name ∧ r.kind = f.kind := by
  obtain ⟨first, hfirst, rfl⟩ := Option.map_eq_some_iff.mp h
  exact ⟨first, List.mem_of_find?_eq_some hfirst, by simpa using List.find?_some hfirst, rfl⟩

end ScrapeBridge.Scrape
