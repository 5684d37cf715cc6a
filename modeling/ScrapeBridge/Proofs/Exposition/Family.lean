import Mathlib.Data.List.Induction
import ScrapeBridge.Exposition.Family
import ScrapeBridge.Proofs.Table

namespace ScrapeBridge.Family

variable {families : List Family} {f g : Family}

def metricsOf (families : List Family) (name : String) : List Metric :=
  (families.filter (·.name = name)).flatMap (·.metrics)

/-- The first family of a name that is not empty, with the metrics of all of them. -/
def merged? (families : List Family) (name : String) : Option Family :=
  (families.find? fun f => f.name = name && !f.metrics.isEmpty).map fun f =>
    { f with metrics := metricsOf families name }

theorem metricsOf_concat (families : List Family) (f : Family) (name : String) :
    metricsOf (families ++ [f]) name =
      metricsOf families name ++ if f.name = name then f.metrics else [] := by
  by_cases h : f.name = name <;> simp [metricsOf, h]

theorem metricsOf_eq_nil {name : String}
    (h : families.find? (fun f => f.name = name && !f.metrics.isEmpty) = none) :
    metricsOf families name = [] := by
  rw [metricsOf, List.flatMap_eq_nil_iff]
  intro f hf
  obtain ⟨hmem, hname⟩ := List.mem_filter.mp hf
  simpa [of_decide_eq_true hname] using List.find?_eq_none.mp h f hmem

theorem merged?_concat_of_ne {name : String} (h : f.name ≠ name) :
    merged? (families ++ [f]) name = merged? families name := by
  simp [merged?, metricsOf_concat, h]

theorem merged?_concat_of_isEmpty {name : String} (h : f.metrics.isEmpty = true) :
    merged? (families ++ [f]) name = merged? families name := by
  simp [merged?, metricsOf_concat, List.isEmpty_iff.mp h]

theorem merged?_concat_self (h : f.metrics.isEmpty = false) :
    merged? (families ++ [f]) f.name =
      some (match merged? families f.name with
        | some g => { g with metrics := g.metrics ++ f.metrics }
        | none => f) := by
  unfold merged?
  rw [List.find?_append, metricsOf_concat, if_pos rfl]
  cases hfirst : families.find? fun d => d.name = f.name && !d.metrics.isEmpty with
  | some g => rfl
  | none => simp [h, metricsOf_eq_nil hfirst]

theorem merge_eq (t : Table Family) (h : f.metrics.isEmpty = false) :
    merge t f = t.insert f.name (match t.get? f.name with
      | some g => { g with metrics := g.metrics ++ f.metrics }
      | none => f) := by
  rw [merge, h]
  cases t.get? f.name <;> rfl

theorem get?_foldl_merge (families : List Family) (name : String) :
    (families.foldl merge ∅).get? name = merged? families name := by
  induction families using List.reverseRecOn generalizing name with
  | nil => rfl
  | append_singleton families f ih =>
    rw [List.foldl_append, List.foldl_cons, List.foldl_nil]
    cases hempty : f.metrics.isEmpty with
    | true => rw [merge, if_pos hempty, ih, merged?_concat_of_isEmpty hempty]
    | false =>
      rw [merge_eq _ hempty, ih]
      by_cases hname : f.name = name
      · rw [← hname, Table.get?_insert_self, merged?_concat_self hempty]
      · rw [Table.get?_insert_of_ne _ _ hname, ih, merged?_concat_of_ne hname]

theorem name_of_merged? {name : String} (h : merged? families name = some f) : f.name = name := by
  obtain ⟨g, hg, rfl⟩ := Option.map_eq_some_iff.mp h
  have hfound := List.find?_some hg
  simp only [Bool.and_eq_true, decide_eq_true_eq] at hfound
  exact hfound.1

theorem gather_eq (families : List Family) :
    gather families = (families.foldl merge ∅).entries.map fun (_, f) =>
      { f with metrics := f.metrics.mergeSort fun a b => (a.compare b).isLE } := rfl

theorem mem_gather : g ∈ gather families ↔ ∃ f, merged? families f.name = some f ∧
    g = { f with metrics := f.metrics.mergeSort fun a b => (a.compare b).isLE } := by
  rw [gather_eq, List.mem_map]
  constructor
  · rintro ⟨⟨name, f⟩, he, rfl⟩
    have hf := Table.mem_entries.mp he
    rw [get?_foldl_merge] at hf
    exact ⟨f, (name_of_merged? hf).symm ▸ hf, rfl⟩
  · rintro ⟨f, hf, rfl⟩
    exact ⟨(f.name, f), Table.mem_entries.mpr ((get?_foldl_merge families f.name).trans hf), rfl⟩

/-- A gathered family has its help and its kind from a family of its name, and the metrics of all. -/
theorem of_mem_gather (h : g ∈ gather families) :
    (∃ f ∈ families, f.name = g.name ∧ f.help = g.help ∧ f.kind = g.kind) ∧
      g.metrics.Perm (metricsOf families g.name) := by
  obtain ⟨f, hf, rfl⟩ := mem_gather.mp h
  obtain ⟨first, hfirst, hmerged⟩ := Option.map_eq_some_iff.mp hf
  have hname : first.name = f.name := by rw [← hmerged]
  have hmetrics : metricsOf families f.name = f.metrics := by rw [← hmerged, hname]
  refine ⟨⟨first, List.mem_of_find?_eq_some hfirst, hname, ?_, ?_⟩, ?_⟩
  · rw [← hmerged]
  · rw [← hmerged]
  · rw [hmetrics]
    exact List.mergeSort_perm _ _

end ScrapeBridge.Family
