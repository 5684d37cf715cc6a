import Mathlib.Data.List.Nodup
import Mathlib.Data.List.Pairwise
import ScrapeBridge.Proofs.Cache.Emission
import ScrapeBridge.Proofs.Exposition.Producer

namespace ScrapeBridge

namespace Sample

/-- Two values of the sample are exposed, and their names end alike. -/
def RepeatsName : Sample → Prop
  | collectd v => ∃ i j, i < j ∧ v.Exposes i ∧ v.Exposes j ∧
      ReadsAlike (v.nameTail i) (v.nameTail j)
  | ceilometer _ => False

/-- Both samples have a value that is exposed, and neither the names of these values nor the labels
of the samples show a difference. -/
def LooksLike : Sample → Sample → Prop
  | collectd v, collectd w =>
    (v.host = w.host ∧ v.typeLabel = w.typeLabel ∧ v.ownLabel? = w.ownLabel?) ∧
      ∃ i j, v.Exposes i ∧ w.Exposes j ∧
        ReadsAlike (v.identity ++ v.nameTail i) (w.identity ++ w.nameTail j)
  | ceilometer m, ceilometer n =>
    (m.AlikeButResource n ∧ (m.MistakenFor n ∨ n.MistakenFor m)) ∧ m.values ≠ [] ∧ n.values ≠ []
  | _, _ => False

variable {s t : Sample} {useTimestamp : Bool} {i : Nat} {r r' : Reading}

theorem mem_readings :
    r ∈ s.readings useTimestamp ↔ ∃ i, s.reading? useTimestamp i = some r := by
  rw [readings, List.mem_filterMap]
  refine exists_congr fun i => and_iff_right_of_imp fun h => ?_
  rw [List.mem_range]
  cases s with
  | collectd v =>
    obtain ⟨_, _, -, hvalue, -⟩ := Collectd.ValueList.reading?_eq_some.mp h
    exact (List.getElem?_eq_some_iff.mp hvalue).1
  | ceilometer m =>
    obtain ⟨_, hvalue, -⟩ := Ceilometer.Measurement.reading?_eq_some.mp h
    exact (List.getElem?_eq_some_iff.mp hvalue).1

section

variable {v w : Collectd.ValueList} {m n : Ceilometer.Measurement}

theorem collectd_series (h : (collectd v).reading? useTimestamp i = some r) :
    v.Exposes i ∧ r.name = v.metricName i ∧ r.labels = v.labels := by
  refine ⟨(Collectd.ValueList.exposes_iff useTimestamp).mpr ⟨r, h⟩, ?_⟩
  obtain ⟨_, _, -, -, rfl⟩ := Collectd.ValueList.reading?_eq_some.mp h
  exact ⟨rfl, rfl⟩

theorem exists_collectd_series (h : r ∈ (collectd v).readings useTimestamp) :
    ∃ i, v.Exposes i ∧ r.name = v.metricName i ∧ r.labels = v.labels := by
  obtain ⟨i, hi⟩ := mem_readings.mp h
  exact ⟨i, collectd_series hi⟩

theorem exists_reading_of_exposes (useTimestamp : Bool) (h : v.Exposes i) :
    ∃ r ∈ (collectd v).readings useTimestamp, r.name = v.metricName i ∧ r.labels = v.labels := by
  obtain ⟨r, hr⟩ := (Collectd.ValueList.exposes_iff useTimestamp).mp h
  exact ⟨r, mem_readings.mpr ⟨i, hr⟩, (collectd_series (r := r) hr).2⟩

theorem ceilometer_series (h : r ∈ (ceilometer m).readings useTimestamp) :
    m.values ≠ [] ∧ r.name = m.metricName ∧ r.labels = m.labels := by
  obtain ⟨i, hi⟩ := mem_readings.mp h
  obtain ⟨_, hvalue, rfl⟩ := Ceilometer.Measurement.reading?_eq_some.mp hi
  exact ⟨List.ne_nil_of_mem (List.mem_of_getElem? hvalue), rfl, rfl⟩

theorem exists_reading_of_values (useTimestamp : Bool) (h : m.values ≠ []) :
    ∃ r ∈ (ceilometer m).readings useTimestamp, r.name = m.metricName ∧ r.labels = m.labels := by
  obtain ⟨value, rest, hvalues⟩ := List.exists_cons_of_ne_nil h
  have hvalue : m.values[0]? = some value := by
    rw [hvalues]
    rfl
  have hreading : (ceilometer m).reading? useTimestamp 0 = some _ :=
    Ceilometer.Measurement.reading?_eq_some.mpr ⟨value, hvalue, rfl⟩
  exact ⟨_, mem_readings.mpr ⟨0, hreading⟩, rfl, rfl⟩

theorem name_ne_of_sources (hr : r ∈ (collectd v).readings useTimestamp)
    (hr' : r' ∈ (ceilometer m).readings useTimestamp) : r.name ≠ r'.name := by
  obtain ⟨i, hi⟩ := mem_readings.mp hr
  obtain ⟨j, hj⟩ := mem_readings.mp hr'
  intro hname
  cases dataSource_eq_of_name hi hj hname

theorem collectd_looksLike_iff :
    (∃ r ∈ (collectd v).readings useTimestamp, ∃ r' ∈ (collectd w).readings useTimestamp,
      r.SameSeries r') ↔ (collectd v).LooksLike (collectd w) := by
  constructor
  · rintro ⟨r, hr, r', hr', hname, hlabels⟩
    obtain ⟨i, hv, hvname, hvlabels⟩ := exists_collectd_series hr
    obtain ⟨j, hw, hwname, hwlabels⟩ := exists_collectd_series hr'
    rw [hvname, hwname, Collectd.ValueList.metricName_eq_iff] at hname
    rw [hvlabels, hwlabels, Collectd.ValueList.labels_eq_iff] at hlabels
    exact ⟨hlabels, i, j, hv, hw, hname⟩
  · rintro ⟨hlabels, i, j, hv, hw, hname⟩
    obtain ⟨r, hr, hvname, hvlabels⟩ := exists_reading_of_exposes useTimestamp hv
    obtain ⟨r', hr', hwname, hwlabels⟩ := exists_reading_of_exposes useTimestamp hw
    refine ⟨r, hr, r', hr', ?_, ?_⟩
    · rw [hvname, hwname, Collectd.ValueList.metricName_eq_iff]
      exact hname
    · rw [hvlabels, hwlabels, Collectd.ValueList.labels_eq_iff]
      exact hlabels

theorem ceilometer_looksLike_iff (hkey : m.itemKey ≠ n.itemKey) :
    (∃ r ∈ (ceilometer m).readings useTimestamp, ∃ r' ∈ (ceilometer n).readings useTimestamp,
      r.SameSeries r') ↔ (ceilometer m).LooksLike (ceilometer n) := by
  constructor
  · rintro ⟨r, hr, r', hr', -, hlabels⟩
    obtain ⟨hm, -, hmlabels⟩ := ceilometer_series hr
    obtain ⟨hn, -, hnlabels⟩ := ceilometer_series hr'
    rw [hmlabels, hnlabels] at hlabels
    have hresource : m.resource ≠ n.resource := by
      intro hresource
      have hname := Ceilometer.Measurement.counterName_eq
        (Ceilometer.Measurement.counter_eq_of_labels hlabels)
      exact hkey (by rw [Ceilometer.Measurement.itemKey, Ceilometer.Measurement.itemKey, hresource,
        hname])
    exact ⟨⟨Ceilometer.Measurement.alike_of_labels_eq hlabels hresource,
      Ceilometer.Measurement.mistakenFor_of_labels_eq hlabels hresource⟩, hm, hn⟩
  · rintro ⟨⟨halike, hmistaken⟩, hm, hn⟩
    obtain ⟨r, hr, hmname, hmlabels⟩ := exists_reading_of_values useTimestamp hm
    obtain ⟨r', hr', hnname, hnlabels⟩ := exists_reading_of_values useTimestamp hn
    refine ⟨r, hr, r', hr', ?_, ?_⟩
    · rw [hmname, hnname, Ceilometer.Measurement.metricName, Ceilometer.Measurement.metricName,
        Ceilometer.Measurement.counterName_eq halike.counter]
    · rw [hmlabels, hnlabels]
      rcases hmistaken with hmistaken | hmistaken
      · exact halike.labels_eq hmistaken
      · exact (halike.symm.labels_eq hmistaken).symm

end

/-- Samples with different keys have readings of one series if they look like each other, and only
then. -/
theorem looksLike_iff (useTimestamp : Bool) (hkey : s.itemKey ≠ t.itemKey) :
    (∃ r ∈ s.readings useTimestamp, ∃ r' ∈ t.readings useTimestamp, r.SameSeries r') ↔
      s.LooksLike t := by
  cases s with
  | collectd v =>
    cases t with
    | collectd w => exact collectd_looksLike_iff
    | ceilometer n =>
      refine ⟨?_, False.elim⟩
      rintro ⟨r, hr, r', hr', hname, -⟩
      exact name_ne_of_sources hr hr' hname
  | ceilometer m =>
    cases t with
    | collectd w =>
      refine ⟨?_, False.elim⟩
      rintro ⟨r, hr, r', hr', hname, -⟩
      exact name_ne_of_sources hr' hr hname.symm
    | ceilometer n => exact ceilometer_looksLike_iff hkey

theorem hostKey_eq_of_sameSeries (hr : r ∈ s.readings useTimestamp)
    (hr' : r' ∈ t.readings useTimestamp) (h : r.SameSeries r') : s.hostKey = t.hostKey := by
  obtain ⟨i, hi⟩ := mem_readings.mp hr
  obtain ⟨j, hj⟩ := mem_readings.mp hr'
  exact (producer_eq_of_sameSeries hi hj h).2

theorem pairwise_range {n : Nat} {R : Nat → Nat → Prop} :
    (List.range n).Pairwise R ↔ ∀ i j, i < j → j < n → R i j := by
  rw [List.pairwise_iff_getElem]
  simp only [List.getElem_range, List.length_range]
  constructor
  · exact fun h i j hij hj => h i j (Nat.lt_trans hij hj) hj hij
  · exact fun h i j _ hj hij => h i j hij hj

theorem pairwise_readings_iff (s : Sample) (useTimestamp : Bool) :
    ((s.readings useTimestamp).Pairwise fun r r' => ¬ r.SameSeries r') ↔ ¬ s.RepeatsName := by
  rw [readings, List.pairwise_filterMap, pairwise_range]
  cases s with
  | collectd v =>
    constructor
    · rintro h ⟨i, j, hij, hi, hj, hname⟩
      obtain ⟨r, hr⟩ := (Collectd.ValueList.exposes_iff useTimestamp).mp hi
      obtain ⟨r', hr'⟩ := (Collectd.ValueList.exposes_iff useTimestamp).mp hj
      obtain ⟨-, hrname, hrlabels⟩ := collectd_series (r := r) hr
      obtain ⟨-, hrname', hrlabels'⟩ := collectd_series (r := r') hr'
      refine h i j hij hj.1 r hr r' hr' ⟨?_, hrlabels.trans hrlabels'.symm⟩
      rw [hrname, hrname', Collectd.ValueList.metricName_eq_iff_nameTail]
      exact hname
    · rintro h i j hij - r hr r' hr' ⟨hname, -⟩
      obtain ⟨hi, hrname, -⟩ := collectd_series hr
      obtain ⟨hj, hrname', -⟩ := collectd_series hr'
      rw [hrname, hrname', Collectd.ValueList.metricName_eq_iff_nameTail] at hname
      exact h ⟨i, j, hij, hi, hj, hname⟩
  | ceilometer m =>
    refine ⟨fun _ => id, fun _ i j hij hj => ?_⟩
    have hlength := m.length_values_le
    change j < m.values.length at hj
    omega

end Sample

namespace Cache

theorem eq_of_mem_latest {samples : List Sample} {s t : Sample} (hs : s ∈ latest samples)
    (ht : t ∈ latest samples) (hhost : s.hostKey = t.hostKey) (hkey : s.itemKey = t.itemKey) :
    s = t := by
  rw [mem_latest] at hs ht
  rw [hhost, hkey, ht] at hs
  exact (Option.some.inj hs).symm

theorem readings_flush_run (seconds : Nat) (events : List Event) (now : Int)
    (useTimestamp : Bool) :
    (((create seconds).run events).flush now useTimestamp).2.readings.Perm
      ((latest (pending events)).flatMap (·.readings useTimestamp)) := by
  rw [flush, readings_emission]
  exact (newSamples_run _ events).flatMap_right _

/-- A flush emits no two readings of one series, but for samples of which several values end alike
and for samples of one host that look like each other. -/
theorem flush_series_distinct_iff (timeToLive : Duration) (events : List Event) (now : Int)
    (useTimestamp : Bool) :
    let c := (create timeToLive.seconds).run events
    let fresh := latest (pending events)
    ((c.flush now useTimestamp).2.readings.Pairwise fun r r' => ¬ r.SameSeries r') ↔
      (∀ s ∈ fresh, ¬ s.RepeatsName) ∧
        ∀ s ∈ fresh, ∀ t ∈ fresh, s.itemKey ≠ t.itemKey → ¬ s.LooksLike t := by
  intro c fresh
  -- Two readings are of one sample, or of two; those of two are of different keys or hosts.
  rw [(readings_flush_run _ events now useTimestamp).pairwise_iff fun h h' => h h'.symm,
    List.pairwise_flatMap]
  refine and_congr (forall₂_congr fun s _ => s.pairwise_readings_iff useTimestamp) ?_
  constructor
  · intro h s hs t ht hkey hlooks
    obtain ⟨r, hr, r', hr', hsame⟩ := (Sample.looksLike_iff useTimestamp hkey).mpr hlooks
    have : Std.Symm fun s t : Sample => ∀ r ∈ s.readings useTimestamp,
        ∀ r' ∈ t.readings useTimestamp, ¬ r.SameSeries r' :=
      ⟨fun s t hst r hr r' hr' h => hst r' hr' r hr h.symm⟩
    exact h.forall hs ht (fun heq => hkey (heq ▸ rfl)) r hr r' hr' hsame
  · intro h
    refine (nodup_latest _).pairwise_of_forall_ne fun s hs t ht hne r hr r' hr' hsame => ?_
    have hhost := Sample.hostKey_eq_of_sameSeries hr hr' hsame
    have hkey : s.itemKey ≠ t.itemKey := fun hkey => hne (eq_of_mem_latest hs ht hhost hkey)
    exact h s hs t ht hkey ((Sample.looksLike_iff useTimestamp hkey).mp ⟨r, hr, r', hr', hsame⟩)

/-- A hyphen and an underscore are the same to a name and to a label, but not to a key. -/
theorem flush_repeats_series :
    let load (plugin : String) : Sample := .collectd {
      values := [1], dataTypes := ["gauge"], dataNames := ["value"], host := "node"
      plugin, type := "cpu" }
    let events : List Event := [.insert (load "cpu-load") 0, .insert (load "cpu_load") 0]
    (load "cpu-load").itemKey ≠ (load "cpu_load").itemKey ∧
      ¬ (((create 300).run events).flush 10 false).2.readings.Pairwise
        fun r r' => ¬ r.SameSeries r' := by
  intro load events
  obtain ⟨r, r', hreadings, hsame⟩ : ∃ r r',
      (latest (pending events)).flatMap (·.readings false) = [r, r'] ∧ r.SameSeries r' := by
    refine ⟨_, _, rfl, ?_, ?_⟩
    · apply String.toList_inj.mp
      simp only [Collectd.ValueList.metricName, toList_metricName]
      decide
    · have hlabel : labelName "cpu-load" = labelName "cpu_load" := by
        apply String.toList_inj.mp
        rw [toList_labelName (by decide), toList_labelName (by decide)]
        decide
      change Collectd.ValueList.labels _ = Collectd.ValueList.labels _
      rw [Collectd.ValueList.labels_eq, Collectd.ValueList.labels_eq, hlabel]
      rfl
  refine ⟨by decide, fun hdistinct => ?_⟩
  rw [(readings_flush_run 300 events 10 false).pairwise_iff fun h h' => h h'.symm,
    hreadings] at hdistinct
  exact List.rel_of_pairwise_cons hdistinct (.head _) hsame

end Cache

end ScrapeBridge
