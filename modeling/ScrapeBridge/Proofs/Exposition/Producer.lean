import ScrapeBridge.Proofs.Ceilometer.Measurement
import ScrapeBridge.Proofs.Collectd.ValueList
import ScrapeBridge.Sample

namespace ScrapeBridge

def Reading.SameSeries (r r' : Reading) : Prop := r.name = r'.name ∧ r.labels = r'.labels

theorem Reading.SameSeries.symm {r r' : Reading} (h : r.SameSeries r') : r'.SameSeries r :=
  ⟨h.1.symm, h.2.symm⟩

namespace DataSource

def producerLabel : DataSource → String
  | collectd => "instance"
  | ceilometer => "publisher"

theorem eq_of_append {a b : DataSource} {s t : String}
    (h : a.name ++ "_" ++ s = b.name ++ "_" ++ t) : a = b := by
  have hsecond := congrArg (·.toList[1]?) h
  cases a <;> cases b <;> first | rfl | simp [name] at hsecond

end DataSource

namespace Sample

variable {s t : Sample} {useTimestamp useTimestamp' : Bool} {i j : Nat} {r r' : Reading}

theorem exists_name_eq (h : s.reading? useTimestamp i = some r) :
    ∃ rest, r.name = s.dataSource.name ++ "_" ++ rest := by
  cases s with
  | collectd v =>
    obtain ⟨_, _, -, -, rfl⟩ := Collectd.ValueList.reading?_eq_some.mp h
    exact ⟨_, v.metricName_source i⟩
  | ceilometer m =>
    obtain ⟨_, -, rfl⟩ := Ceilometer.Measurement.reading?_eq_some.mp h
    exact ⟨_, m.metricName_source⟩

theorem get?_producerLabel (h : s.reading? useTimestamp i = some r) :
    r.labels.get? s.dataSource.producerLabel = some s.hostKey := by
  cases s with
  | collectd v =>
    obtain ⟨_, _, -, -, rfl⟩ := Collectd.ValueList.reading?_eq_some.mp h
    exact v.get?_labels_instance
  | ceilometer m =>
    obtain ⟨_, -, rfl⟩ := Ceilometer.Measurement.reading?_eq_some.mp h
    exact m.get?_labels_publisher

theorem dataSource_eq_of_name (hr : s.reading? useTimestamp i = some r)
    (hr' : t.reading? useTimestamp' j = some r') (h : r.name = r'.name) :
    s.dataSource = t.dataSource := by
  obtain ⟨rest, hname⟩ := exists_name_eq hr
  obtain ⟨rest', hname'⟩ := exists_name_eq hr'
  rw [hname, hname'] at h
  exact DataSource.eq_of_append h

theorem producer_eq_of_sameSeries (hr : s.reading? useTimestamp i = some r)
    (hr' : t.reading? useTimestamp' j = some r') (h : r.SameSeries r') :
    s.dataSource = t.dataSource ∧ s.hostKey = t.hostKey := by
  have hsource := dataSource_eq_of_name hr hr' h.1
  have hhost := get?_producerLabel hr
  rw [h.2, hsource, get?_producerLabel hr'] at hhost
  exact ⟨hsource, (Option.some.inj hhost).symm⟩

/-- A reading shows its source in its name and its host or publisher in a label, so that readings of
different hosts or sources are never of one series. -/
theorem series_tell_producers (hr : s.reading? useTimestamp i = some r)
    (hr' : t.reading? useTimestamp' j = some r') :
    (∃ rest, r.name = s.dataSource.name ++ "_" ++ rest) ∧
      r.labels.get? s.dataSource.producerLabel = some s.hostKey ∧
      (s.dataSource ≠ t.dataSource → r.name ≠ r'.name) ∧
      (s.hostKey ≠ t.hostKey ∨ s.dataSource ≠ t.dataSource → ¬ r.SameSeries r') := by
  refine ⟨exists_name_eq hr, get?_producerLabel hr, ?_, ?_⟩
  · exact mt (dataSource_eq_of_name hr hr')
  · intro hproducers hsame
    obtain ⟨hsource, hhost⟩ := producer_eq_of_sameSeries hr hr' hsame
    exact hproducers.elim (absurd hhost) (absurd hsource)

/-- Two hosts, each of which gives the other's name to the label of its plugin, which is called
`instance`; and a publisher whose counter is called `publisher`. -/
theorem series_tell_producers_of_fixed_labels :
    let load (host pluginInstance : String) : Sample := .collectd {
      values := [1], dataTypes := ["gauge"], dataNames := ["value"], host
      plugin := "instance", type := "load", pluginInstance }
    let s := load "node" "other"
    let t := load "other" "node"
    let u : Sample := .ceilometer ⟨"node", Table.ofList [
      ("counter_name", .string (some "publisher.size.other")),
      ("counter_volume", .number ⟨false, [1], [], 0⟩)]⟩
    ∃ r r' r'', s.reading? false 0 = some r ∧ t.reading? true 0 = some r' ∧
      u.reading? false 0 = some r'' ∧ r.name = r'.name ∧ ¬ r.SameSeries r' ∧
      u.hostKey = s.hostKey ∧ r''.labels.get? "publisher" = some "node" ∧
      ¬ r''.SameSeries r := by
  intro load s t u
  obtain ⟨r, hr⟩ : ∃ r, s.reading? false 0 = some r := ⟨_, rfl⟩
  obtain ⟨r', hr'⟩ : ∃ r', t.reading? true 0 = some r' := ⟨_, rfl⟩
  obtain ⟨r'', hr''⟩ : ∃ r'', u.reading? false 0 = some r'' := ⟨_, rfl⟩
  obtain ⟨-, -, -, hhosts⟩ := series_tell_producers hr hr'
  obtain ⟨-, hlabel, -, hsources⟩ := series_tell_producers hr'' hr
  have hhost : s.hostKey ≠ t.hostKey := by decide
  have hname : r.name = r'.name := by
    cases hr
    cases hr'
    rfl
  exact ⟨r, r', r'', hr, hr', hr'', hname, hhosts (.inl hhost), rfl, hlabel,
    hsources (.inr (by decide))⟩

end Sample

end ScrapeBridge
