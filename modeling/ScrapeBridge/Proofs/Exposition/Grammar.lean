import ScrapeBridge.Proofs.Ceilometer.Measurement
import ScrapeBridge.Proofs.Collectd.ValueList
import ScrapeBridge.Sample

namespace ScrapeBridge

def spells (first later : Char → Bool) (s : String) : Bool :=
  match s.toList with
  | [] => false
  | c :: l => first c && l.all later

/-- Names of the form `[A-Za-z_:][A-Za-z0-9_:]*`. -/
def isMetricName : String → Bool :=
  spells (fun c => c.isAlpha || c = '_' || c = ':') isNameChar

def isLabelChar (c : Char) : Bool := c.isAlphanum || c = '_'

/-- Names of the form `[A-Za-z_][A-Za-z0-9_]*`. -/
def isLabelName : String → Bool := spells (fun c => c.isAlpha || c = '_') isLabelChar

def startsWithDigit (s : String) : Bool := s.toList.head?.any (·.isDigit)

theorem isMetricName_append {s : String} (hs : isMetricName s = true) (t : String) :
    isMetricName (s ++ metricName t) = true := by
  unfold isMetricName spells at hs ⊢
  rw [String.toList_append]
  cases hl : s.toList with
  | nil => simp [hl] at hs
  | cons c l =>
    rw [hl, Bool.and_eq_true] at hs
    rw [List.cons_append, Bool.and_eq_true, List.all_append, hs.2, Bool.true_and, List.all_eq_true]
    exact ⟨hs.1, fun d => isNameChar_of_mem_metricName⟩

theorem labelChar_eq (c : Char) :
    (if isNameChar c then (if c = ':' then '_' else c) else '_') =
      if isLabelChar c then c else '_' := by
  by_cases hcolon : c = ':'
  · subst hcolon
    rfl
  · have hsame : isNameChar c = isLabelChar c := by simp [isNameChar, isLabelChar, hcolon]
    rw [hsame, if_neg hcolon]

theorem toList_labelName_eq {s : String} (hs : s ≠ "") :
    (labelName s).toList = s.toList.map fun c => if isLabelChar c then c else '_' := by
  rw [toList_labelName hs]
  exact List.map_congr_left fun c _ => labelChar_eq c

theorem labelName_ne_empty (s : String) : labelName s ≠ "" := by
  by_cases hs : s = ""
  · subst hs
    decide
  · intro hempty
    rw [← String.toList_eq_nil_iff, toList_labelName hs, List.map_eq_nil_iff] at hempty
    exact hs (String.toList_eq_nil_iff.mp hempty)

theorem isLabelChar_of_mem_labelName {s : String} {c : Char} (h : c ∈ (labelName s).toList) :
    isLabelChar c = true := by
  by_cases hs : s = ""
  · subst hs
    have hplugin : (labelName "").toList.all isLabelChar = true := by decide
    exact List.all_eq_true.mp hplugin c h
  · rw [toList_labelName_eq hs] at h
    obtain ⟨d, -, rfl⟩ := List.mem_map.mp h
    by_cases hd : isLabelChar d = true
    · rwa [if_pos hd]
    · rw [if_neg hd]
      rfl

theorem not_isAlpha_of_isDigit {c : Char} (h : c.isDigit = true) : c.isAlpha = false := by
  obtain ⟨-, hnine⟩ := Char.isDigit_iff_toNat.mp h
  rw [Bool.eq_false_iff]
  intro halpha
  rcases Bool.or_eq_true_iff.mp halpha with hupper | hlower
  · have hfirst : 'A'.toNat ≤ c.toNat := UInt32.le_iff_toNat_le.mp (of_decide_eq_true hupper).1
    exact absurd (Nat.le_trans hfirst hnine) (by decide)
  · have hfirst : 'a'.toNat ≤ c.toNat :=
      UInt32.le_iff_toNat_le.mp (of_decide_eq_true (Bool.and_eq_true_iff.mp hlower).1)
    exact absurd (Nat.le_trans hfirst hnine) (by decide)

theorem startsLabel_eq (c : Char) {d : Char} (hd : d = if isLabelChar c then c else '_') :
    (d.isAlpha || d = '_') = !c.isDigit := by
  subst hd
  by_cases hdigit : c.isDigit = true
  · have hkept : isLabelChar c = true := by simp [isLabelChar, Char.isAlphanum, hdigit]
    have hunderscore : c ≠ '_' := by
      rintro rfl
      cases hdigit
    simp [hkept, hdigit, hunderscore, not_isAlpha_of_isDigit hdigit]
  · by_cases hkept : isLabelChar c = true
    · have hstarts := hkept
      simp only [isLabelChar, Char.isAlphanum, hdigit, Bool.or_false] at hstarts
      rw [if_pos hkept, hstarts, Bool.eq_false_iff.mpr hdigit]
      rfl
    · rw [if_neg hkept, Bool.eq_false_iff.mpr hdigit]
      rfl

theorem isLabelName_labelName (s : String) : isLabelName (labelName s) = !startsWithDigit s := by
  by_cases hs : s = ""
  · subst hs
    decide
  · obtain ⟨c, l, hc⟩ := List.exists_cons_of_ne_nil (mt String.toList_eq_nil_iff.mp hs)
    have hchars := fun d => isLabelChar_of_mem_labelName (s := s) (c := d)
    unfold isLabelName spells startsWithDigit
    rw [toList_labelName_eq hs, hc, List.map_cons] at hchars ⊢
    have hlater : (l.map fun c => if isLabelChar c then c else '_').all isLabelChar = true :=
      List.all_eq_true.mpr fun d hd => hchars d (.tail _ hd)
    rw [List.head?_cons, Option.any_some, ← startsLabel_eq c rfl]
    simp only [hlater, Bool.and_true]

namespace Sample

def plugin : Sample → String
  | collectd v => v.plugin
  | ceilometer m => m.plugin

def fixedLabels : List String :=
  ["instance", "publisher", "type", "project", "resource", "unit", "counter"]

theorem isLabelName_of_mem_fixedLabels {label : String} (h : label ∈ fixedLabels) :
    isLabelName label = true := by
  revert label
  decide

variable {s : Sample} {useTimestamp : Bool} {i : Nat} {r : Reading}

theorem isMetricName_of_reading? (h : s.reading? useTimestamp i = some r) :
    isMetricName r.name = true := by
  cases s with
  | collectd v =>
    obtain ⟨_, _, -, -, rfl⟩ := Collectd.ValueList.reading?_eq_some.mp h
    rw [v.metricName_source]
    exact isMetricName_append (by decide) _
  | ceilometer m =>
    obtain ⟨_, -, rfl⟩ := Ceilometer.Measurement.reading?_eq_some.mp h
    rw [m.metricName_source]
    exact isMetricName_append (by decide) _

theorem mem_labels_of_reading? (h : s.reading? useTimestamp i = some r) {label : String}
    (hlabel : label ∈ r.labels.keys) : label = labelName s.plugin ∨ label ∈ fixedLabels := by
  obtain ⟨value, hvalue⟩ := Table.mem_keys.mp hlabel
  cases s with
  | collectd v =>
    obtain ⟨_, _, -, -, rfl⟩ := Collectd.ValueList.reading?_eq_some.mp h
    rcases Collectd.ValueList.eq_of_get?_labels hvalue with heq | rfl | rfl
    · exact .inl heq
    · exact .inr (by decide)
    · exact .inr (by decide)
  | ceilometer m =>
    obtain ⟨_, -, rfl⟩ := Ceilometer.Measurement.reading?_eq_some.mp h
    have hfixed : ∀ label ∈ "publisher" :: "type" ::
        Ceilometer.Measurement.copiedLabels.map (·.1), label ∈ fixedLabels := by decide
    exact (Ceilometer.Measurement.eq_of_get?_labels hvalue).imp_right (hfixed label)

theorem plugin_mem_labels (h : s.reading? useTimestamp i = some r) :
    labelName s.plugin ∈ r.labels.keys := by
  rw [Table.mem_keys, ← Option.isSome_iff_exists]
  cases s with
  | collectd v =>
    obtain ⟨_, _, -, -, rfl⟩ := Collectd.ValueList.reading?_eq_some.mp h
    exact v.isSome_get?_plugin
  | ceilometer m =>
    obtain ⟨_, -, rfl⟩ := Ceilometer.Measurement.reading?_eq_some.mp h
    exact m.isSome_get?_plugin

theorem isLabelChar_of_mem_labels (h : s.reading? useTimestamp i = some r) {label : String}
    (hlabel : label ∈ r.labels.keys) : label ≠ "" ∧ ∀ c ∈ label.toList, isLabelChar c = true := by
  rcases mem_labels_of_reading? h hlabel with rfl | hfixed
  · exact ⟨labelName_ne_empty s.plugin, fun c => isLabelChar_of_mem_labelName⟩
  · have hall : fixedLabels.all (fun label => label ≠ "" && label.toList.all isLabelChar) = true := by
      decide
    have hclean := List.all_eq_true.mp hall label hfixed
    rw [Bool.and_eq_true, List.all_eq_true] at hclean
    exact ⟨of_decide_eq_true hclean.1, hclean.2⟩

/-- The names that a sample is exposed under are allowed, but for the label of a plugin whose name
starts with a digit: that label starts with the digit too. -/
theorem reading_names_allowed_iff (h : s.reading? useTimestamp i = some r) :
    isMetricName r.name = true ∧
      (∀ label ∈ r.labels.keys, label ≠ "" ∧ ∀ c ∈ label.toList, isLabelChar c = true) ∧
      ((∀ label ∈ r.labels.keys, isLabelName label = true) ↔ startsWithDigit s.plugin = false) := by
  refine ⟨isMetricName_of_reading? h, fun label => isLabelChar_of_mem_labels h, ?_⟩
  constructor
  · intro hall
    have hplugin := hall _ (plugin_mem_labels h)
    rw [isLabelName_labelName] at hplugin
    simpa using hplugin
  · intro hdigit label hlabel
    rcases mem_labels_of_reading? h hlabel with rfl | hfixed
    · rw [isLabelName_labelName, hdigit]
      rfl
    · exact isLabelName_of_mem_fixedLabels hfixed

/-- Where no digit starts the plugin's name, there is nothing that is not allowed. -/
theorem reading_names_allowed_of_interface :
    let s : Sample := .collectd {
      values := [1], dataTypes := ["derive"], dataNames := ["rx:bytes"], host := "node"
      plugin := "interface-lan", type := "if octets", pluginInstance := "eth0" }
    startsWithDigit s.plugin = false ∧
      ∃ r, s.reading? false 0 = some r ∧ isMetricName r.name = true ∧
        ∀ label ∈ r.labels.keys, isLabelName label = true := by
  intro s
  have hdigit : startsWithDigit s.plugin = false := by decide
  obtain ⟨r, hr⟩ : ∃ r, s.reading? false 0 = some r := ⟨_, rfl⟩
  obtain ⟨hname, -, hlabels⟩ := reading_names_allowed_iff hr
  exact ⟨hdigit, r, hr, hname, hlabels.mpr hdigit⟩

/-- The counters of a 9P file system have a label that is not allowed. -/
theorem reading_label_starts_with_digit :
    let s : Sample := .collectd {
      values := [1], dataTypes := ["gauge"], dataNames := ["value"], host := "node"
      plugin := "9p", type := "requests" }
    ∃ r, s.reading? false 0 = some r ∧ "9p" ∈ r.labels.keys ∧ isLabelName "9p" = false := by
  intro s
  have hlabel : labelName "9p" = "9p" := by
    apply String.toList_inj.mp
    rw [toList_labelName_eq (by decide)]
    decide
  refine ⟨_, rfl, ?_, by decide⟩
  have hreading : s.reading? false 0 = some _ := rfl
  have hmem := plugin_mem_labels hreading
  rwa [show s.plugin = "9p" from rfl, hlabel] at hmem

end Sample

end ScrapeBridge
