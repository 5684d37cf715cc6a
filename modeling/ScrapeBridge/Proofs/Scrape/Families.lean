import ScrapeBridge.Proofs.Cache.Shard
import ScrapeBridge.Proofs.Ceilometer.Measurement
import ScrapeBridge.Proofs.Collectd.ValueList
import ScrapeBridge.Proofs.Exposition.Family
import ScrapeBridge.Proofs.Scrape.Group
import ScrapeBridge.SelfMetrics

namespace ScrapeBridge

def Family.Uniform (f : Family) : Prop := ∀ x ∈ f.metrics, x.kind = f.kind

theorem Family.uniform_single (name help : String) (value : Float) (timestampMs : Option Int) :
    (Family.single name help value timestampMs).Uniform := by
  simp [Uniform, single, Metric.gauge]

theorem Counters.uniform_family (counters : Counters) (name help : String) :
    (counters.family name help).Uniform := by
  intro x hx
  obtain ⟨_, -, rfl⟩ := List.mem_map.mp hx
  rfl

theorem Sample.name_of_reading? {s : Sample} {useTimestamp : Bool} {i : Nat} {r : Reading}
    (h : s.reading? useTimestamp i = some r) :
    "collectd_".toList <+: r.name.toList ∧ (r.kind = .counter → "_total".toList <:+ r.name.toList) ∨
      "ceilometer_".toList <+: r.name.toList := by
  cases s with
  | collectd v =>
    obtain ⟨kind, _, hkind, -, rfl⟩ := Collectd.ValueList.reading?_eq_some.mp h
    refine .inl ⟨?_, ?_⟩
    · rw [v.metricName_source, String.toList_append]
      exact List.prefix_append _ _
    · rintro rfl
      rw [v.metricName_source, Collectd.ValueList.nameTail, if_pos hkind, metricName_append,
        metricName_append, metricName_of_clean (s := "_total") (by decide)]
      simp only [String.toList_append, ← List.append_assoc]
      exact List.suffix_append _ _
  | ceilometer m =>
    obtain ⟨_, -, rfl⟩ := Ceilometer.Measurement.reading?_eq_some.mp h
    rw [m.metricName_source, String.toList_append]
    exact .inr (List.prefix_append _ _)

theorem Cache.exists_reading?_of_mem_emission {c : Cache} {useTimestamp : Bool} {r : Reading}
    (h : r ∈ (c.emission useTimestamp).readings) :
    ∃ (s : Sample) (i : Nat), s.reading? useTimestamp i = some r := by
  obtain ⟨shard, -, h⟩ := List.mem_flatMap.mp h
  rw [Shard.newReadings_eq] at h
  obtain ⟨s, -, h⟩ := List.mem_flatMap.mp h
  obtain ⟨i, -, hi⟩ := List.mem_filterMap.mp h
  exact ⟨s, i, hi⟩

namespace Scrape

/-- The families about hosts, whose names producers can make up too. -/
def hostNames : List String :=
  ["collectd_last_metric_for_host_status", "collectd_metric_per_host"]

def ownNames : List String :=
  ["telemetry_gateway_messages_received_total", "telemetry_gateway_messages_processed_total",
    "telemetry_gateway_messages_dropped_total", "telemetry_gateway_reconnects_total",
    "telemetry_gateway_min_collect_interval_seconds",
    "telemetry_gateway_last_pull_timestamp_seconds", "telemetry_gateway_bus_connected",
    "telemetry_gateway_doc_store_connected", "telemetry_gateway_cache_hosts"]

def ownFamilies (m : SelfMetrics) (health : Health) (nowMs : Int) (hosts : Nat) : List Family :=
  m.families ++
    .single "telemetry_gateway_last_pull_timestamp_seconds" "Unix time of the most recent scrape."
      (Float.ofInt nowMs / 1000) (some nowMs) ::
    healthFamilies health nowMs ++
      [.single "telemetry_gateway_cache_hosts"
        "Number of hosts held in the cache after the last flush." (count hosts) (some nowMs)]

def allFamilies (c : Cache) (health : Health) (useTimestamp : Bool) (nowMs : Int)
    (m : SelfMetrics) : List Family :=
  m.families ++ (collect c health useTimestamp nowMs).2

section

variable (c : Cache) (health : Health) (useTimestamp : Bool) (nowMs : Int) (m : SelfMetrics)

theorem perm_allFamilies : (allFamilies c health useTimestamp nowMs m).Perm
    (ownFamilies m health nowMs (c.afterFlush (nowMs / 1000)).size ++
      (group (c.emission useTimestamp).readings ++
        hostFamilies (c.emission useTimestamp).hosts)) := by
  simp only [allFamilies, collect, ownFamilies, Cache.flush, List.append_assoc, List.cons_append]
  refine List.Perm.append_left _ (.cons _ (List.Perm.append_left _ ?_))
  rw [← List.append_assoc]
  exact List.perm_append_comm

theorem names_ownFamilies (hosts : Nat) :
    ((ownFamilies m health nowMs hosts).map (·.name)).Sublist ownNames := by
  obtain ⟨bus, _ | ok⟩ := health
  · exact List.Sublist.append (List.Sublist.refl (ownNames.take 7)) (.cons _ (.refl _))
  · exact List.Sublist.refl ownNames

variable {m health nowMs} {r : Reading} {f : Family} {x : Metric} {name : String}

theorem uniform_ownFamilies {hosts : Nat} (hf : f ∈ ownFamilies m health nowMs hosts) :
    f.Uniform := by
  revert f
  unfold ownFamilies SelfMetrics.families healthFamilies
  obtain ⟨bus, _ | ok⟩ := health <;>
    simp only [List.forall_mem_append, List.forall_mem_cons, Counters.uniform_family,
      Family.uniform_single, List.not_mem_nil, false_implies, implies_true, and_self]

theorem uniform_group {readings : List Reading} (hf : f ∈ group readings) : f.Uniform :=
  fun _ => kind_of_grouped? (mem_group.mp hf)

theorem of_mem_hostFamilies {hosts : List Cache.Activity} (hf : f ∈ hostFamilies hosts) :
    f.name ∈ hostNames ∧ f.kind = .gauge ∧ f.Uniform := by
  unfold hostFamilies at hf
  split at hf
  case isTrue => cases hf
  case isFalse =>
    simp only [List.mem_cons, List.not_mem_nil, or_false] at hf
    rcases hf with rfl | rfl
    · exact ⟨.head _, rfl, by simp [Family.Uniform, heartbeat, Metric.gauge]⟩
    · exact ⟨.tail _ (.head _), rfl, by simp [Family.Uniform, valueCount, Metric.gauge]⟩

/-- Nothing that a producer names is taken for one of the bridge's own metrics. -/
theorem name_not_mem_ownNames (hr : r ∈ (c.emission useTimestamp).readings) :
    r.name ∉ ownNames := by
  obtain ⟨s, i, h⟩ := Cache.exists_reading?_of_mem_emission hr
  have hforeign : ∀ name ∈ ownNames,
      ¬ "collectd_".toList <+: name.toList ∧ ¬ "ceilometer_".toList <+: name.toList := by decide
  intro hown
  obtain ⟨hcollectd, hceilometer⟩ := hforeign _ hown
  rcases s.name_of_reading? h with ⟨hname, -⟩ | hname
  · exact hcollectd hname
  · exact hceilometer hname

theorem kind_of_name_mem_hostNames (hr : r ∈ (c.emission useTimestamp).readings)
    (hhost : r.name ∈ hostNames) : r.kind = .gauge := by
  obtain ⟨s, i, h⟩ := Cache.exists_reading?_of_mem_emission hr
  have hforeign : ∀ name ∈ hostNames,
      ¬ "_total".toList <:+ name.toList ∧ ¬ "ceilometer_".toList <+: name.toList := by decide
  obtain ⟨htotal, hceilometer⟩ := hforeign _ hhost
  rcases s.name_of_reading? h with ⟨-, hcounter⟩ | hname
  · cases hkind : r.kind with
    | gauge => rfl
    | counter => exact absurd (hcounter hkind) htotal
  · exact absurd hname hceilometer

theorem count_names_le_one (hhost : name ∉ hostNames) :
    ((allFamilies c health useTimestamp nowMs m).map (·.name)).count name ≤ 1 := by
  have hperm := (perm_allFamilies c health useTimestamp nowMs m).map (·.name)
  have hown := names_ownFamilies health nowMs m (c.afterFlush (nowMs / 1000)).size
  have hhosts : ((hostFamilies (c.emission useTimestamp).hosts).map (·.name)).count name = 0 := by
    rw [List.count_eq_zero, List.mem_map]
    rintro ⟨f, hf, rfl⟩
    exact hhost (of_mem_hostFamilies hf).1
  rw [hperm.count_eq, List.map_append, List.map_append, List.count_append, List.count_append, hhosts]
  -- The readings have a family of the name, or the bridge has, but not both.
  by_cases hmem : name ∈ ownNames
  · have hgroup : ((group (c.emission useTimestamp).readings).map (·.name)).count name = 0 := by
      rw [List.count_eq_zero, List.mem_map]
      rintro ⟨f, hf, rfl⟩
      obtain ⟨r, hr, hname, -⟩ := exists_reading_of_grouped? (mem_group.mp hf)
      exact name_not_mem_ownNames c useTimestamp hr (hname ▸ hmem)
    have hle := List.nodup_iff_count_le_one.mp (hown.nodup (by decide)) name
    omega
  · have hzero := List.count_eq_zero.mpr fun h => hmem (hown.subset h)
    have hle := List.nodup_iff_count_le_one.mp
      (nodup_names_group (c.emission useTimestamp).readings) name
    omega

theorem uniform_allFamilies (hf : f ∈ allFamilies c health useTimestamp nowMs m) : f.Uniform := by
  rw [(perm_allFamilies c health useTimestamp nowMs m).mem_iff, List.mem_append,
    List.mem_append] at hf
  rcases hf with hf | hf | hf
  · exact uniform_ownFamilies hf
  · exact uniform_group hf
  · exact (of_mem_hostFamilies hf).2.2

theorem kind_of_hostName (hf : f ∈ allFamilies c health useTimestamp nowMs m)
    (hhost : f.name ∈ hostNames) : f.kind = .gauge := by
  have hforeign : ∀ name ∈ hostNames, name ∉ ownNames := by decide
  rw [(perm_allFamilies c health useTimestamp nowMs m).mem_iff, List.mem_append,
    List.mem_append] at hf
  rcases hf with hf | hf | hf
  · have hown := (names_ownFamilies health nowMs m _).subset (List.mem_map_of_mem hf)
    exact absurd hown (hforeign _ hhost)
  · obtain ⟨r, hr, hname, hkind⟩ := exists_reading_of_grouped? (mem_group.mp hf)
    rw [← hkind]
    exact kind_of_name_mem_hostNames c useTimestamp hr (hname ▸ hhost)
  · exact (of_mem_hostFamilies hf).2.1

end

theorem filter_name_eq_singleton {families : List Family} {f : Family} (hf : f ∈ families)
    (hcount : (families.map (·.name)).count f.name ≤ 1) :
    families.filter (·.name = f.name) = [f] := by
  have hlength :
      (families.filter (·.name = f.name)).length = (families.map (·.name)).count f.name := by
    rw [List.count, List.countP_map, List.countP_eq_length_filter]
    rfl
  have hmem : f ∈ families.filter (·.name = f.name) := List.mem_filter.mpr ⟨hf, by simp⟩
  have hpos := List.length_pos_of_mem hmem
  have hone : (families.filter (·.name = f.name)).length = 1 := by omega
  obtain ⟨g, hg⟩ := List.length_eq_one_iff.mp hone
  rw [hg, List.mem_singleton] at hmem
  rw [hg, hmem]

/-- Families of one name are of one kind, and hold nothing of another. Only the names of the
families about hosts can be found twice, and no reading has the name of a family of the bridge's
own; so what a registry merges are readings with readings or with metrics about hosts. -/
theorem families_agree (c : Cache) (health : Health) (useTimestamp : Bool) (nowMs : Int)
    (m : SelfMetrics) {families : List Family}
    (h : families.Perm (m.families ++ (collect c health useTimestamp nowMs).2)) :
    let own := ownFamilies m health nowMs (collect c health useTimestamp nowMs).1.size
    let flush := c.emission useTimestamp
    (∀ f ∈ families, ∀ g ∈ families, f.name = g.name → f.kind = g.kind) ∧
      (∀ f ∈ families, ∀ x ∈ f.metrics, x.kind = f.kind) ∧
      (∀ name, 1 < (families.map (·.name)).count name → name ∈ hostNames) ∧
      (∀ g ∈ Family.gather families,
        g.metrics.Perm (Family.metricsOf families g.name) ∧ (∀ x ∈ g.metrics, x.kind = g.kind) ∧
          (g.name ∉ hostNames → ∃ f ∈ families, f.name = g.name ∧ f.help = g.help ∧
            f.kind = g.kind ∧ g.metrics.Perm f.metrics)) ∧
      families.Perm (own ++ (group flush.readings ++ hostFamilies flush.hosts)) ∧
      ∀ r ∈ flush.readings, ∀ f ∈ own, r.name ≠ f.name := by
  intro own flush
  have hcount : ∀ name, name ∉ hostNames → (families.map (·.name)).count name ≤ 1 := by
    intro name hhost
    rw [(h.map (·.name)).count_eq]
    exact count_names_le_one c useTimestamp hhost
  have hkinds : ∀ f ∈ families, ∀ g ∈ families, f.name = g.name → f.kind = g.kind := by
    intro f hf g hg hname
    by_cases hhost : f.name ∈ hostNames
    · rw [kind_of_hostName c useTimestamp (h.mem_iff.mp hf) hhost,
        kind_of_hostName c useTimestamp (h.mem_iff.mp hg) (hname ▸ hhost)]
    · have hsame : g ∈ families.filter (·.name = f.name) :=
        List.mem_filter.mpr ⟨hg, by simp [hname]⟩
      rw [filter_name_eq_singleton hf (hcount _ hhost), List.mem_singleton] at hsame
      rw [hsame]
  have huniform : ∀ f ∈ families, f.Uniform :=
    fun f hf => uniform_allFamilies c useTimestamp (h.mem_iff.mp hf)
  refine ⟨hkinds, huniform, fun name hname => ?_, fun g hg => ?_,
    h.trans (perm_allFamilies c health useTimestamp nowMs m), fun r hr f hf heq => ?_⟩
  · by_contra hhost
    exact absurd (hcount name hhost) (by omega)
  · obtain ⟨⟨first, hfirst, hname, hhelp, hkind⟩, hmetrics⟩ := Family.of_mem_gather hg
    refine ⟨hmetrics, fun x hx => ?_, fun hhost => ⟨first, hfirst, hname, hhelp, hkind, ?_⟩⟩
    · obtain ⟨f, hf, hxf⟩ := List.mem_flatMap.mp (hmetrics.mem_iff.mp hx)
      obtain ⟨hmem, hfname⟩ := List.mem_filter.mp hf
      rw [huniform f hmem x hxf, ← hkind]
      exact hkinds f hmem first hfirst ((of_decide_eq_true hfname).trans hname.symm)
    · rwa [Family.metricsOf, ← hname, filter_name_eq_singleton hfirst (hcount _ (hname ▸ hhost)),
        List.flatMap_singleton] at hmetrics
  · have hown := (names_ownFamilies health nowMs m _).subset (List.mem_map_of_mem hf)
    exact name_not_mem_ownNames c useTimestamp hr (heq ▸ hown)

/-- A sample that has the name of the heartbeats is a gauge like them. -/
theorem families_agree_of_made_up_heartbeat :
    let v : Collectd.ValueList := {
      values := [1], dataTypes := ["gauge"], dataNames := ["value"], host := "node"
      plugin := "last_metric_for_host", type := "status" }
    let c := (Cache.create 300).run [.insert (.collectd v) 0]
    let families := ({} : SelfMetrics).families ++ (collect c {} false 0).2
    (∃ r ∈ (c.emission false).readings, r.name = "collectd_last_metric_for_host_status") ∧
      ∀ f ∈ families, ∀ g ∈ families, f.name = g.name → f.kind = g.kind := by
  intro v c families
  have hname : v.metricName 0 = "collectd_last_metric_for_host_status" := by
    rw [v.metricName_source, metricName_of_clean (by decide)]
    decide
  have hreading : ∃ r ∈ (c.emission false).readings, r.name = v.metricName 0 :=
    ⟨_, .head _, rfl⟩
  exact ⟨hname ▸ hreading, (families_agree c {} false 0 {} (List.Perm.refl families)).1⟩

end Scrape

end ScrapeBridge
