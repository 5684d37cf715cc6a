import Mathlib.Data.List.Nodup
import ScrapeBridge.Ceilometer.Measurement
import ScrapeBridge.Proofs.Name
import ScrapeBridge.Proofs.Table

namespace ScrapeBridge.Ceilometer.Measurement

variable {m n : Measurement}

/-- A payload has one volume at most. -/
theorem length_values_le (m : Measurement) : m.values.length ≤ 1 :=
  Option.length_toList_le

def copied? (m : Measurement) (label : String) : Option String :=
  (copiedLabels.find? (·.1 = label)).bind fun l => m.text? l.2

def ownValue (m : Measurement) : String :=
  if m.typeInstance.isEmpty then m.resource else m.typeInstance

def ownLabels (m : Measurement) : Labels :=
  ((Table.insert ∅ (labelName m.plugin) m.ownValue).insert "publisher" m.publisher).insert "type"
    ((m.text? "counter_type").getD "base")

theorem get?_copy (m : Measurement) {l : List (String × String)} (hl : (l.map (·.1)).Nodup)
    (own : Labels) (label : String) :
    (l.foldl (fun labels (label, key) =>
      match m.text? key with
      | some s => labels.insert label s
      | none => labels) own).get? label =
      ((l.find? (·.1 = label)).bind fun l => m.text? l.2).or (own.get? label) := by
  induction l generalizing own with
  | nil => rfl
  | cons e l ih =>
    rw [List.map_cons, List.nodup_cons] at hl
    rw [List.foldl_cons, ih hl.2]
    by_cases h : e.1 = label
    · have hlast : l.find? (·.1 = label) = none := by
        rw [List.find?_eq_none]
        intro d hd hdlabel
        exact hl.1 (List.mem_map.mpr ⟨d, hd, (of_decide_eq_true hdlabel).trans h.symm⟩)
      cases htext : m.text? e.2 <;> simp [hlast, h, htext]
    · cases htext : m.text? e.2 <;> simp [h, htext, Table.get?_insert]

theorem get?_labels (m : Measurement) (label : String) :
    m.labels.get? label = (m.copied? label).or (m.ownLabels.get? label) :=
  get?_copy m (by decide) m.ownLabels label

theorem eq_of_get?_ownLabels {label value : String} (h : m.ownLabels.get? label = some value) :
    label = labelName m.plugin ∨ label = "publisher" ∨ label = "type" := by
  rcases Table.of_get?_insert h with heq | h
  · exact .inr (.inr heq)
  · rcases Table.of_get?_insert h with heq | h
    · exact .inr (.inl heq)
    · rcases Table.of_get?_insert h with heq | h
      · exact .inl heq
      · cases h

theorem mem_copiedLabels_of_copied? {label value : String} (h : m.copied? label = some value) :
    label ∈ copiedLabels.map (·.1) := by
  obtain ⟨l, hl, -⟩ := Option.bind_eq_some_iff.mp h
  have hlabel : l.1 = label := by simpa using List.find?_some hl
  exact List.mem_map.mpr ⟨l, List.mem_of_find?_eq_some hl, hlabel⟩

theorem eq_of_get?_labels {label value : String} (h : m.labels.get? label = some value) :
    label = labelName m.plugin ∨ label ∈ "publisher" :: "type" :: copiedLabels.map (·.1) := by
  rw [get?_labels, Option.or_eq_some_iff] at h
  rcases h with hcopied | ⟨-, hown⟩
  · exact .inr (.tail _ (.tail _ (mem_copiedLabels_of_copied? hcopied)))
  · rcases eq_of_get?_ownLabels hown with heq | rfl | rfl
    · exact .inl heq
    · exact .inr (.head _)
    · exact .inr (.tail _ (.head _))

theorem get?_labels_plugin {label : String} (hlabel : label ∉ ["publisher", "type"])
    (hplugin : labelName m.plugin = label) :
    m.labels.get? label = some ((m.copied? label).getD m.ownValue) := by
  simp only [List.mem_cons, List.not_mem_nil, or_false, not_or] at hlabel
  rw [get?_labels, ownLabels, Table.get?_insert_of_ne _ _ (Ne.symm hlabel.2),
    Table.get?_insert_of_ne _ _ (Ne.symm hlabel.1), hplugin, Table.get?_insert_self]
  cases m.copied? label with
  | none => rw [Option.none_or, Option.getD_none]
  | some value => rw [Option.some_or, Option.getD_some]

theorem get?_labels_of_ne {label : String} (hlabel : label ∉ ["publisher", "type"])
    (hplugin : labelName m.plugin ≠ label) : m.labels.get? label = m.copied? label := by
  have hown : m.ownLabels.get? label = none := by
    by_contra hsome
    obtain ⟨value, hvalue⟩ := Option.ne_none_iff_exists'.mp hsome
    rcases eq_of_get?_ownLabels hvalue with heq | rfl | rfl
    · exact hplugin heq.symm
    · exact hlabel (.head _)
    · exact hlabel (.tail _ (.head _))
  rw [get?_labels, hown, Option.or_none]

theorem get?_labels_publisher (m : Measurement) :
    m.labels.get? "publisher" = some m.publisher := by
  have hcopied : m.copied? "publisher" = none := rfl
  rw [get?_labels, hcopied, Option.none_or, ownLabels,
    Table.get?_insert_of_ne _ _ (by decide), Table.get?_insert_self]

theorem get?_labels_type (m : Measurement) :
    m.labels.get? "type" = some ((m.text? "counter_type").getD "base") := by
  have hcopied : m.copied? "type" = none := rfl
  rw [get?_labels, hcopied, Option.none_or, ownLabels, Table.get?_insert_self]

theorem isSome_get?_plugin (m : Measurement) : (m.labels.get? (labelName m.plugin)).isSome := by
  by_cases hlabel : labelName m.plugin ∈ ["publisher", "type"]
  · simp only [List.mem_cons, List.not_mem_nil, or_false] at hlabel
    rcases hlabel with h | h
    · rw [h, get?_labels_publisher]
      rfl
    · rw [h, get?_labels_type]
      rfl
  · rw [get?_labels_plugin hlabel rfl]
    rfl

theorem copied?_resource (m : Measurement) : m.copied? "resource" = m.text? "resource_id" := rfl

theorem copied?_counter (m : Measurement) : m.copied? "counter" = m.text? "counter_name" := rfl

theorem get?_labels_counter (m : Measurement) :
    m.labels.get? "counter" = m.text? "counter_name" := by
  by_cases hplugin : labelName m.plugin = "counter"
  · rw [get?_labels_plugin (by decide) hplugin, copied?_counter]
    cases hname : m.text? "counter_name" with
    | some name => rw [Option.getD_some]
    | none =>
      -- Without a counter the plugin is `unknown`, and so is its label.
      have hunknown : m.plugin = "unknown" := by
        rw [plugin, nameParts, counterName, hname]
        decide
      have hcounter := eq_of_labelName_eq hplugin (by decide) (by decide)
      rw [hunknown] at hcounter
      exact absurd hcounter (by decide)
  · rw [get?_labels_of_ne (by decide) hplugin, copied?_counter]

structure AlikeButResource (m n : Measurement) : Prop where
  publisher : m.publisher = n.publisher
  counter : m.text? "counter_name" = n.text? "counter_name"
  project : m.text? "project_id" = n.text? "project_id"
  unit : m.text? "counter_unit" = n.text? "counter_unit"
  type : (m.text? "counter_type").getD "base" = (n.text? "counter_type").getD "base"

theorem AlikeButResource.symm (h : m.AlikeButResource n) : n.AlikeButResource m :=
  ⟨h.publisher.symm, h.counter.symm, h.project.symm, h.unit.symm, h.type.symm⟩

/-- The label `resource` is the plugin's own. Without a resource it holds the type instance, just as
if that were the resource. -/
structure MistakenFor (m n : Measurement) : Prop where
  plugin : m.plugin = "resource"
  typeInstance : m.typeInstance ≠ ""
  missing : m.text? "resource_id" = none
  taken : n.text? "resource_id" = some m.typeInstance

section

variable (hcounter : m.text? "counter_name" = n.text? "counter_name")

include hcounter

theorem counterName_eq : m.counterName = n.counterName := by
  rw [counterName, counterName, hcounter]

theorem nameParts_eq : m.nameParts = n.nameParts := by
  rw [nameParts, nameParts, counterName_eq hcounter]

theorem plugin_eq : m.plugin = n.plugin := by rw [plugin, plugin, nameParts_eq hcounter]

end

theorem labelName_resource : labelName "resource" = "resource" := by
  apply String.toList_inj.mp
  rw [toList_labelName (by decide)]
  decide

theorem AlikeButResource.copied?_eq (h : m.AlikeButResource n) {label : String}
    (hlabel : label ≠ "resource") : m.copied? label = n.copied? label := by
  unfold copied?
  cases hfind : copiedLabels.find? (·.1 = label) with
  | none => rfl
  | some l =>
    have hl : l.1 = label := by simpa using List.find?_some hfind
    have hmem := List.mem_of_find?_eq_some hfind
    simp only [copiedLabels, List.mem_cons, List.not_mem_nil, or_false] at hmem
    rw [Option.bind_some, Option.bind_some]
    rcases hmem with rfl | rfl | rfl | rfl
    · exact h.project
    · exact absurd hl.symm hlabel
    · exact h.unit
    · exact h.counter

theorem AlikeButResource.labels_eq (h : m.AlikeButResource n) (hmistaken : m.MistakenFor n) :
    m.labels = n.labels := by
  have hm : labelName m.plugin = "resource" := by rw [hmistaken.plugin, labelName_resource]
  have hn : labelName n.plugin = "resource" := by rw [← plugin_eq h.counter, hm]
  apply Table.ext_get?
  intro label
  by_cases hfixed : label ∈ ["publisher", "type"]
  · simp only [List.mem_cons, List.not_mem_nil, or_false] at hfixed
    rcases hfixed with rfl | rfl
    · rw [get?_labels_publisher, get?_labels_publisher, h.publisher]
    · rw [get?_labels_type, get?_labels_type, h.type]
  · by_cases hlabel : label = "resource"
    · subst hlabel
      have hvalue : m.ownValue = m.typeInstance :=
        if_neg fun hempty => hmistaken.typeInstance (String.isEmpty_iff.mp hempty)
      rw [get?_labels_plugin hfixed hm, get?_labels_plugin hfixed hn, copied?_resource,
        copied?_resource, hmistaken.missing, hmistaken.taken, Option.getD_none, Option.getD_some,
        hvalue]
    · rw [get?_labels_of_ne hfixed (hm ▸ Ne.symm hlabel),
        get?_labels_of_ne hfixed (hn ▸ Ne.symm hlabel), h.copied?_eq hlabel]

theorem resource_eq_of_text (h : m.text? "resource_id" = n.text? "resource_id") :
    m.resource = n.resource := by
  rw [resource, resource, h]

theorem mistakenFor_of_missing {name : String} (hplugin : labelName m.plugin = "resource")
    (hm : m.text? "resource_id" = none) (hn : n.text? "resource_id" = some name)
    (hvalue : m.ownValue = name) (hresource : m.resource ≠ n.resource) : m.MistakenFor n := by
  have hempty : m.typeInstance.isEmpty = false := by
    rw [Bool.eq_false_iff]
    intro hempty
    rw [ownValue, if_pos hempty] at hvalue
    rw [hvalue, resource, hn] at hresource
    exact hresource rfl
  rw [ownValue, hempty] at hvalue
  refine ⟨eq_of_labelName_eq hplugin (by decide) (by decide), fun h => ?_, hm,
    hn.trans (congrArg some hvalue.symm)⟩
  rw [h] at hempty
  cases hempty

theorem counter_eq_of_labels (hlabels : m.labels = n.labels) :
    m.text? "counter_name" = n.text? "counter_name" := by
  rw [← get?_labels_counter, ← get?_labels_counter, hlabels]

section

variable (hlabels : m.labels = n.labels) (hresource : m.resource ≠ n.resource)

include hlabels hresource

theorem labelName_of_labels_eq : labelName m.plugin = "resource" := by
  by_contra hm
  have hn : labelName n.plugin ≠ "resource" := plugin_eq (counter_eq_of_labels hlabels) ▸ hm
  apply hresource
  apply resource_eq_of_text
  rw [← copied?_resource, ← copied?_resource, ← get?_labels_of_ne (by decide) hm,
    ← get?_labels_of_ne (by decide) hn, hlabels]

theorem alike_of_labels_eq : m.AlikeButResource n := by
  have hm := labelName_of_labels_eq hlabels hresource
  have hn := labelName_of_labels_eq hlabels.symm hresource.symm
  have hcopied : ∀ label ∉ ["publisher", "type", "resource"], m.copied? label = n.copied? label := by
    intro label hlabel
    simp only [List.mem_cons, List.not_mem_nil, or_false, not_or] at hlabel
    have hfixed : label ∉ ["publisher", "type"] := by simp [hlabel.1, hlabel.2.1]
    rw [← get?_labels_of_ne hfixed (hm ▸ Ne.symm hlabel.2.2),
      ← get?_labels_of_ne hfixed (hn ▸ Ne.symm hlabel.2.2), hlabels]
  have hget : ∀ label, m.labels.get? label = n.labels.get? label := fun label => by rw [hlabels]
  refine ⟨?_, counter_eq_of_labels hlabels, hcopied "project" (by decide),
    hcopied "unit" (by decide), ?_⟩
  · simpa only [get?_labels_publisher, Option.some.injEq] using hget "publisher"
  · simpa only [get?_labels_type, Option.some.injEq] using hget "type"

theorem mistakenFor_of_labels_eq : m.MistakenFor n ∨ n.MistakenFor m := by
  have hm := labelName_of_labels_eq hlabels hresource
  have hn := labelName_of_labels_eq hlabels.symm hresource.symm
  have hvalue : (m.text? "resource_id").getD m.ownValue =
      (n.text? "resource_id").getD n.ownValue := by
    rw [← copied?_resource, ← copied?_resource, ← Option.some.injEq,
      ← get?_labels_plugin (by decide) hm, ← get?_labels_plugin (by decide) hn, hlabels]
  -- Both hold the same text. If both hold a resource, or both lack one, the resources agree.
  cases hmr : m.text? "resource_id" with
  | none =>
    cases hnr : n.text? "resource_id" with
    | none => exact absurd (resource_eq_of_text (hmr.trans hnr.symm)) hresource
    | some name =>
      rw [hmr, hnr, Option.getD_none, Option.getD_some] at hvalue
      exact .inl (mistakenFor_of_missing hm hmr hnr hvalue hresource)
  | some name =>
    cases hnr : n.text? "resource_id" with
    | none =>
      rw [hmr, hnr, Option.getD_none, Option.getD_some] at hvalue
      exact .inr (mistakenFor_of_missing hn hnr hmr hvalue.symm hresource.symm)
    | some name' =>
      rw [hmr, hnr, Option.getD_some, Option.getD_some] at hvalue
      exact absurd (resource_eq_of_text (by rw [hmr, hnr, hvalue])) hresource

end

theorem metricName_source (m : Measurement) :
    m.metricName = "ceilometer_" ++
      ScrapeBridge.metricName (m.counterName.map fun c => if c = '.' then '_' else c) := by
  rw [metricName, metricName_append, metricName_of_clean (s := "ceilometer_") (by decide)]

theorem reading?_eq_some {useTimestamp : Bool} {i : Nat} {r : Reading} :
    m.reading? useTimestamp i = some r ↔
      ∃ value, m.values[i]? = some value ∧
        r = ⟨m.metricName, m.help, m.kind, m.labels, value,
          if useTimestamp then m.timestampMs? else none⟩ := by
  simp only [reading?, bind, pure, Option.bind_eq_some_iff, Option.some.injEq]
  exact exists_congr fun value => and_congr_right fun _ => eq_comm

end ScrapeBridge.Ceilometer.Measurement
