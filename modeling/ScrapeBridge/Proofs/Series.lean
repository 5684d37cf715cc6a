import ScrapeBridge.Proofs.Cache.History
import ScrapeBridge.Proofs.Collectd.ValueList

namespace ScrapeBridge

theorem Ceilometer.Measurement.itemKey_eq (m : Measurement) :
    m.itemKey = m.counterName ++ joined (if m.resource = "" then [] else [m.resource]) := by
  unfold itemKey
  by_cases h : m.resource = "" <;> simp [h, joined, String.isEmpty_iff, String.append_assoc]

theorem Ceilometer.Measurement.resource_eq {m n : Measurement} (hkey : m.itemKey = n.itemKey)
    (hcounter : m.counterName = n.counterName) : m.resource = n.resource := by
  rw [itemKey_eq, itemKey_eq, hcounter, String.append_right_inj] at hkey
  by_cases hm : m.resource = "" <;> by_cases hn : n.resource = "" <;>
    simp_all [joined]

namespace Sample

/-- The samples are kept at the same place. -/
def SameKeys (s t : Sample) : Prop := s.hostKey = t.hostKey ∧ s.itemKey = t.itemKey

/-- The samples report the same series. -/
def SameSeries : Sample → Sample → Prop
  | collectd v, collectd w =>
    v.labels = w.labels ∧
      ∀ i, v.dataName i = w.dataName i → v.dataType i = w.dataType i →
        v.metricName i = w.metricName i
  | ceilometer m, ceilometer n => m.counterName = n.counterName ∧ m.resource = n.resource
  | _, _ => False

/-- The parts that an item key puts together are the same. -/
def SameParts : Sample → Sample → Prop
  | collectd v, collectd w =>
    v.plugin = w.plugin ∧ v.type = w.type ∧ v.instances = w.instances
  | ceilometer m, ceilometer n => m.counterName = n.counterName
  | _, _ => False

/-- Value lists that have a value in common, and a label of their own for the plugin. Only of such
can it be told from their names and labels what their keys are put together from. -/
def Comparable : Sample → Sample → Prop
  | collectd v, collectd w =>
    v.plugin ≠ "instance" ∧ w.plugin ≠ "instance" ∧
      ∃ i, v.dataName i = w.dataName i ∧ v.dataType i = w.dataType i
  | _, _ => True

section

variable {s t : Sample}

theorem sameSeries_refl (s : Sample) : s.SameSeries s := by
  cases s with
  | collectd v => exact ⟨rfl, fun _ _ _ => rfl⟩
  | ceilometer m => exact ⟨rfl, rfl⟩

theorem SameParts.sameSeries (h : s.SameParts t) (hkeys : s.SameKeys t) : s.SameSeries t := by
  obtain ⟨hhost, hkey⟩ := hkeys
  cases s with
  | collectd v =>
    cases t with
    | ceilometer n => cases h
    | collectd w =>
      obtain ⟨hplugin, htype, hinstances⟩ := h
      refine ⟨Collectd.ValueList.labels_eq_of_parts hhost hplugin hinstances, ?_⟩
      intro i hname hdata
      rw [Collectd.ValueList.metricName_eq, Collectd.ValueList.metricName_eq,
        Collectd.ValueList.identity_eq_of_parts hplugin htype,
        Collectd.ValueList.nameTail_eq hname hdata]
  | ceilometer m =>
    cases t with
    | collectd w => cases h
    | ceilometer n => exact ⟨h, Ceilometer.Measurement.resource_eq hkey h⟩

theorem SameSeries.sameParts (h : s.SameSeries t) (hkeys : s.SameKeys t)
    (hcomparable : s.Comparable t) : s.SameParts t := by
  obtain ⟨hhost, hkey⟩ := hkeys
  cases s with
  | collectd v =>
    cases t with
    | ceilometer n => cases h
    | collectd w =>
      obtain ⟨hv, hw, i, hname, htype⟩ := hcomparable
      obtain ⟨hlabels, hnames⟩ := h
      have hlength := Collectd.ValueList.length_identity_eq hname htype (hnames i hname htype)
      exact Collectd.ValueList.parts_eq_of_labels hkey hlabels hlength hv hw
  | ceilometer m =>
    cases t with
    | collectd w => cases h
    | ceilometer n => exact h.1

end

end Sample

namespace Cache

/-- A cache loses no sample to one of another series if and only if their keys tell the two series
apart, and they do if equal keys are put together from the same parts. As a rule they do only
then. -/
theorem insert_keeps_series_iff (s t : Sample) :
    ((∀ seconds events now,
        let c := (create seconds).run events
        c.item? s.hostKey s.itemKey = some ⟨s, true⟩ → ¬ s.SameSeries t →
          (c.insert t now).item? s.hostKey s.itemKey = some ⟨s, true⟩) ↔
      (s.SameKeys t → s.SameSeries t)) ∧
    ((s.SameKeys t → s.SameParts t) → s.SameKeys t → s.SameSeries t) ∧
    (s.Comparable t → (s.SameKeys t → s.SameSeries t) → s.SameKeys t → s.SameParts t) := by
  refine ⟨⟨fun hkeeps hkeys => ?_, fun hseries seconds events now => ?_⟩, ?_, ?_⟩
  · by_contra hother
    have hcreated := wellFormed_create 0
    have hcached : ((create 0).run [.insert s 0]).item? s.hostKey s.itemKey = some ⟨s, true⟩ := by
      change ((create 0).insert s 0).item? s.hostKey s.itemKey = _
      rw [item?_insert hcreated, if_pos ⟨rfl, rfl⟩]
    have hlost := hkeeps 0 [.insert s 0] 0 hcached hother
    rw [item?_insert (hcreated.run _), if_pos ⟨hkeys.1.symm, hkeys.2.symm⟩] at hlost
    cases hlost
    exact hother s.sameSeries_refl
  · intro c hcached hother
    have hkeys : ¬ (t.hostKey = s.hostKey ∧ t.itemKey = s.itemKey) :=
      fun hkeys => hother (hseries ⟨hkeys.1.symm, hkeys.2.symm⟩)
    rw [item?_insert ((wellFormed_create seconds).run events), if_neg hkeys]
    exact hcached
  · exact fun hparts hkeys => (hparts hkeys).sameSeries hkeys
  · exact fun hcomparable hseries hkeys => (hseries hkeys).sameParts hkeys hcomparable

/-- One of the counters of an interface, and the only one of an interface whose name ends with the
first one's. -/
theorem insert_confuses_instances :
    let octets (pluginInstance typeInstance : String) : Sample := .collectd {
      values := [1], dataTypes := ["gauge"], dataNames := ["value"], host := "node"
      plugin := "interface", type := "if_octets", pluginInstance, typeInstance }
    let s := octets "eth0" "1"
    let t := octets "eth0_1" ""
    s.SameKeys t ∧ s.Comparable t ∧ ¬ s.SameSeries t ∧
      ((create 300).run [.insert s 0]).held "node" "interface_if_octets_eth0_1" = [⟨s, true⟩] ∧
      ((create 300).run [.insert s 0, .insert t 0]).held "node" "interface_if_octets_eth0_1" =
        [⟨t, true⟩] := by
  intro octets s t
  have hkeys : s.SameKeys t := ⟨rfl, rfl⟩
  have hcomparable : s.Comparable t := ⟨by decide, by decide, 0, rfl, rfl⟩
  refine ⟨hkeys, hcomparable, fun hseries => ?_, rfl, ?_⟩
  · have hinstances : ["eth0", "1"] = ["eth0_1"] := (hseries.sameParts hkeys hcomparable).2.2
    simp at hinstances
  · rw [held_eq ((wellFormed_create 300).run _)]
    change ((((create 300).insert s 0).insert t 0).item? _ _).toList = _
    rw [item?_insert ((wellFormed_create 300).insert s 0), if_pos ⟨rfl, rfl⟩]
    rfl

end Cache

end ScrapeBridge
