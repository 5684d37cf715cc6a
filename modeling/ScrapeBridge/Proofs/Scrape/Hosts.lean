import Mathlib.Algebra.BigOperators.Group.List.Basic
import Mathlib.Data.List.Induction
import ScrapeBridge.Proofs.Cache.Emission
import ScrapeBridge.Proofs.Ceilometer.Measurement
import ScrapeBridge.Proofs.Collectd.ValueList
import ScrapeBridge.Proofs.Counting
import ScrapeBridge.Scrape
import ScrapeBridge.Time.Duration

namespace ScrapeBridge

namespace Sample

def supports : Sample → Nat → Bool
  | collectd v, i => v.dataType i ∈ ["gauge", "counter", "derive"]
  | ceilometer _, _ => true

def supported (s : Sample) : Nat := (List.range s.values.length).countP s.supports

theorem isSome_kind? (v : Collectd.ValueList) (i : Nat) :
    (v.kind? i).isSome = (collectd v).supports i := by
  unfold Collectd.ValueList.kind? supports
  split <;> simp_all

theorem isSome_reading? {s : Sample} {i : Nat} (useTimestamp : Bool) (hi : i < s.values.length) :
    (s.reading? useTimestamp i).isSome = s.supports i := by
  rw [Bool.eq_iff_iff, Option.isSome_iff_exists]
  cases s with
  | collectd v =>
    rw [← isSome_kind?]
    exact (Collectd.ValueList.exposes_iff useTimestamp).symm.trans (and_iff_right hi)
  | ceilometer m =>
    have hvalue : m.values[i]? = some m.values[i] := List.getElem?_eq_getElem hi
    refine iff_of_true ?_ rfl
    exact ⟨_, Ceilometer.Measurement.reading?_eq_some.mpr ⟨_, hvalue, rfl⟩⟩

theorem length_readings (s : Sample) (useTimestamp : Bool) :
    (s.readings useTimestamp).length = s.supported := by
  rw [readings, List.length_filterMap_eq_countP, supported]
  refine List.countP_congr fun i hi => ?_
  rw [isSome_reading? useTimestamp (List.mem_range.mp hi)]

theorem supported_pos_iff {s : Sample} :
    0 < s.supported ↔ ∃ i < s.values.length, s.supports i = true := by
  simp only [supported, List.countP_pos_iff, List.mem_range]

end Sample

namespace Cache

/-- The hosts that a scrape of the cache reports about. -/
def listed (c : Cache) : List String := c.liveShards.map (·.host)

/-- How many flushes there have been since a host was last heard of. -/
def flushesSince (host : String) (events : List Event) : Nat :=
  (events.reverse.takeWhile (!·.reaches host)).countP (·.isFlush)

section

variable (host : String) (events : List Event)

theorem flushesSince_insert (sample : Sample) (t : Int) :
    flushesSince host (events ++ [.insert sample t]) =
      if sample.hostKey = host then 0 else flushesSince host events := by
  by_cases h : sample.hostKey = host <;> simp [flushesSince, h]

theorem flushesSince_flush (t : Int) (useTimestamp : Bool) :
    flushesSince host (events ++ [.flush t useTimestamp]) = flushesSince host events + 1 := by
  simp [flushesSince, List.countP_cons]

end

section

variable {c : Cache} (hc : c.WellFormed) {host key : String}

include hc in
theorem nodup_listed : c.listed.Nodup := nodup_hosts hc

include hc in
theorem mem_listed : host ∈ c.listed ↔ ∃ key e, c.item? host key = some e := by
  simp only [listed, mem_hosts hc, held_ne_nil hc]

include hc in
theorem item?_afterFlush_of_new {s : Sample} (h : c.item? host key = some ⟨s, true⟩) (now : Int) :
    (c.afterFlush now).item? host key = some ⟨s, false⟩ := by
  obtain ⟨shard, hshard, hget⟩ := Option.bind_eq_some_iff.mp h
  rw [item?_afterFlush hc, hshard, Option.bind_some, hget]
  rfl

include hc in
theorem item?_of_afterFlush {now : Int} {e : Entry}
    (h : (c.afterFlush now).item? host key = some e) : ∃ e', c.item? host key = some e' := by
  rw [item?_afterFlush hc, Option.bind_eq_some_iff] at h
  obtain ⟨shard, hshard, h⟩ := h
  obtain ⟨e', he', -⟩ := Option.bind_eq_some_iff.mp h
  exact ⟨e', Option.bind_eq_some_iff.mpr ⟨shard, hshard, he'⟩⟩

include hc in
theorem mem_listed_insert (h : host ∈ c.listed) (sample : Sample) (t : Int) :
    host ∈ (c.insert sample t).listed := by
  obtain ⟨key, e, he⟩ := (mem_listed hc).mp h
  rw [mem_listed (hc.insert sample t)]
  by_cases hkey : sample.hostKey = host ∧ sample.itemKey = key
  · exact ⟨key, _, by rw [item?_insert hc, if_pos hkey]⟩
  · exact ⟨key, e, by rw [item?_insert hc, if_neg hkey, he]⟩

include hc in
theorem mem_listed_run (h : host ∈ c.listed) {later : List Event}
    (hlater : ∀ e ∈ later, e.isFlush = false) : host ∈ (c.run later).listed := by
  induction later using List.reverseRecOn with
  | nil => exact h
  | append_singleton later e ih =>
    have hkept := ih fun d hd => hlater d (List.mem_append_left _ hd)
    rw [run_append]
    cases e with
    | insert sample t => exact mem_listed_insert (hc.run later) hkept sample t
    | flush t useTimestamp => cases hlater (.flush t useTimestamp) (by simp)

include hc in
theorem length_listed_afterFlush (now : Int) : (c.afterFlush now).listed.length =
    c.listed.length - (c.listed.filter (· ∉ (c.afterFlush now).listed)).length := by
  have hc' := hc.afterFlush now
  have hkept : ((c.listed.filter (· ∈ (c.afterFlush now).listed))).Perm
      (c.afterFlush now).listed := by
    refine (List.perm_ext_iff_of_nodup ((nodup_listed hc).filter _) (nodup_listed hc')).mpr ?_
    intro host
    rw [List.mem_filter, decide_eq_true_eq, and_iff_right_iff_imp]
    intro hhost
    obtain ⟨key, e, he⟩ := (mem_listed hc').mp hhost
    obtain ⟨e', he'⟩ := item?_of_afterFlush hc he
    exact (mem_listed hc).mpr ⟨key, e', he'⟩
  have hsplit := c.listed.length_eq_length_filter_add (· ∈ (c.afterFlush now).listed)
  simp only [decide_not] at hsplit ⊢
  rw [← hkept.length_eq]
  omega

end

/-- A host that was heard of since the last flush has something new, and one that was heard of since
the flush before still has something. -/
theorem item?_of_flushesSince (seconds : Nat) {host : String} {events : List Event}
    (hheard : ∃ e ∈ events, e.reaches host) :
    (flushesSince host events = 0 →
      ∃ key s, ((create seconds).run events).item? host key = some ⟨s, true⟩) ∧
    (flushesSince host events ≤ 1 →
      ∃ key e, ((create seconds).run events).item? host key = some e) := by
  -- The first half carries the second over a flush, which keeps whatever is new.
  induction events using List.reverseRecOn with
  | nil => simp at hheard
  | append_singleton events e ih =>
    have hc := (wellFormed_create seconds).run events
    rw [run_append]
    cases e with
    | insert sample t =>
      rw [flushesSince_insert, apply]
      by_cases hhost : sample.hostKey = host
      · have hnew := item?_insert hc sample t host sample.itemKey
        rw [if_pos ⟨hhost, rfl⟩] at hnew
        exact ⟨fun _ => ⟨_, _, hnew⟩, fun _ => ⟨_, _, hnew⟩⟩
      · have hkept : ∀ key, (((create seconds).run events).insert sample t).item? host key =
            ((create seconds).run events).item? host key := by
          intro key
          rw [item?_insert hc, if_neg fun h => hhost h.1]
        simp only [hkept, if_neg hhost]
        exact ih (by simpa [hhost] using hheard)
    | flush t useTimestamp =>
      rw [flushesSince_flush, apply, flush]
      refine ⟨fun h => absurd h (by omega), fun h => ?_⟩
      obtain ⟨key, s, hnew⟩ := (ih (by simpa using hheard)).1 (by omega)
      exact ⟨key, _, item?_afterFlush_of_new hc hnew t⟩

/-- How many values a host has among the samples. -/
def newValues (samples : List Sample) (host : String) : Nat :=
  ((samples.filter (·.hostKey = host)).map (·.supported)).sum

theorem newValues_pos_iff {samples : List Sample} {host : String} :
    0 < newValues samples host ↔ ∃ s ∈ samples, s.hostKey = host ∧
      ∃ i < s.values.length, s.supports i = true := by
  simp only [newValues, List.sum_pos_iff_exists_pos_nat, List.mem_map, List.mem_filter,
    decide_eq_true_eq, ← Sample.supported_pos_iff]
  constructor
  · rintro ⟨_, ⟨s, ⟨hs, hhost⟩, rfl⟩, hpos⟩
    exact ⟨s, hs, hhost, hpos⟩
  · rintro ⟨s, hs, hhost, hpos⟩
    exact ⟨_, ⟨s, ⟨hs, hhost⟩, rfl⟩, hpos⟩

section

variable (seconds : Nat) (events : List Event)

theorem hosts_emission_run (useTimestamp : Bool) :
    (((create seconds).run events).emission useTimestamp).hosts =
      ((create seconds).run events).listed.map fun host =>
        ⟨host, newValues (latest (pending events)) host⟩ := by
  rw [emission, listed, List.map_map]
  refine List.map_congr_left fun s hs => ?_
  have hlength := ((newSamples_of_host seconds events hs).map (·.supported)).sum_eq
  rw [Function.comp_apply, newValues, hlength, Shard.newReadings_eq, List.length_flatMap]
  simp only [Sample.length_readings]

theorem item?_of_newValues {host : String}
    (h : 0 < newValues (latest (pending events)) host) :
    ∃ key s, ((create seconds).run events).item? host key = some ⟨s, true⟩ := by
  obtain ⟨s, hs, rfl, -⟩ := newValues_pos_iff.mp h
  exact ⟨s.itemKey, s, (item?_run_new seconds events _ _ s).mpr (mem_latest.mp hs)⟩

end

end Cache

namespace Scrape

def beat (n : Nat) : Float := if 0 < n then 1 else 0

def hostReport (n : String → Nat) : List String → List Family
  | [] => []
  | hosts =>
    [⟨"collectd_last_metric_for_host_status", "Status of metrics for host currently active.",
        .gauge, hosts.map fun host => .gauge [("instance", host)] (beat (n host)) none⟩,
      ⟨"collectd_metric_per_host", "No of metrics for host currently read.",
        .gauge, hosts.map fun host => .gauge [("instance", host)] (count (n host)) none⟩]

theorem hostFamilies_eq (n : String → Nat) (hosts : List String) :
    hostFamilies (hosts.map fun host => ⟨host, n host⟩) = hostReport n hosts := by
  cases hosts with
  | nil => rfl
  | cons host hosts =>
    simp only [hostFamilies, hostReport, List.map_map, List.isEmpty_map, List.isEmpty_cons,
      Bool.false_eq_true, if_false]
    rfl

theorem beat_eq_one_iff {n : Nat} : beat n = 1 ↔ 0 < n := by
  unfold beat
  split
  case isTrue h => exact iff_of_true rfl h
  case isFalse h => exact iff_of_false (by decide +kernel) h

/-- A scrape lists every host that the cache holds something of, each with one heartbeat and one
count. The heartbeat is 1 and the count positive if something that can be exposed came in for the
host since the scrape before. Such a host is listed by the next scrape too, and only hosts without
are removed; so the first two scrapes after a host was heard of list it, whatever their times. -/
theorem hosts_reported (timeToLive : Duration) (events : List Cache.Event) (health : Health)
    (useTimestamp : Bool) (nowMs : Int) :
    let c := (Cache.create timeToLive.seconds).run events
    let fresh := Cache.latest (Cache.pending events)
    let n := Cache.newValues fresh
    let scrape := collect c health useTimestamp nowMs
    let removed := c.listed.filter (· ∉ scrape.1.listed)
    (scrape.1 = c.apply (.flush (nowMs / 1000) useTimestamp) ∧
      scrape.2 = .single "telemetry_gateway_last_pull_timestamp_seconds"
          "Unix time of the most recent scrape." (Float.ofInt nowMs / 1000) (some nowMs) ::
        healthFamilies health nowMs ++ group (c.emission useTimestamp).readings ++
        hostReport n c.listed ++
        [.single "telemetry_gateway_cache_hosts"
          "Number of hosts held in the cache after the last flush."
          (count (c.listed.length - removed.length)) (some nowMs)]) ∧
    (c.listed.Nodup ∧ ∀ host, host ∈ c.listed ↔ ∃ key, c.held host key ≠ []) ∧
    (∀ host, (beat (n host) = 1 ↔ 0 < n host) ∧
      (n host < UInt64.size → (0 < count (n host) ↔ 0 < n host)) ∧
      (0 < n host ↔ ∃ s ∈ fresh, s.hostKey = host ∧
        ∃ i < s.values.length, s.supports i = true)) ∧
    (∀ host, (∃ e ∈ events, e.reaches host) → Cache.flushesSince host events ≤ 1 →
      host ∈ c.listed) ∧
    (∀ host ∈ removed, beat (n host) = 0 ∧ count (n host) = 0) ∧
    ∀ host, 0 < n host → ∀ later : List Cache.Event, (∀ e ∈ later, e.isFlush = false) →
      host ∈ (scrape.1.run later).listed := by
  intro c fresh n scrape removed
  have hc : c.WellFormed := (Cache.wellFormed_create _).run events
  have hc' : scrape.1.WellFormed := hc.afterFlush _
  -- New values are of new items, and the flush keeps those: hosts that it removes have none.
  have hkept : ∀ host, 0 < n host → host ∈ scrape.1.listed := by
    intro host hpos
    obtain ⟨key, s, hnew⟩ := Cache.item?_of_newValues timeToLive.seconds events hpos
    exact (Cache.mem_listed hc').mpr ⟨key, _, Cache.item?_afterFlush_of_new hc hnew _⟩
  refine ⟨⟨rfl, ?_⟩, ⟨Cache.nodup_listed hc, fun host => Cache.mem_hosts hc⟩, fun host =>
    ⟨beat_eq_one_iff, count_pos_iff, Cache.newValues_pos_iff⟩, fun host hheard hsince => ?_,
    fun host hhost => ?_, fun host hpos later hlater => ?_⟩
  · have hsize : scrape.1.size = c.listed.length - removed.length := by
      rw [Cache.size_eq hc', ← List.length_map (·.host)]
      exact Cache.length_listed_afterFlush hc _
    have hreport : hostFamilies (c.emission useTimestamp).hosts = hostReport n c.listed := by
      rw [Cache.hosts_emission_run, hostFamilies_eq]
    rw [← hsize, ← hreport]
    rfl
  · exact (Cache.mem_listed hc).mpr ((Cache.item?_of_flushesSince _ hheard).2 hsince)
  · have hgone : host ∉ scrape.1.listed := of_decide_eq_true (List.mem_filter.mp hhost).2
    have hzero : n host = 0 := by
      by_contra hpos
      exact hgone (hkept host (Nat.pos_of_ne_zero hpos))
    rw [hzero]
    exact ⟨rfl, by decide +kernel⟩
  · exact Cache.mem_listed_run hc' (hkept host hpos) hlater

/-- A host with nothing new since the scrape before is listed once more, without a beat. -/
theorem hosts_reported_silent_host :
    let events : List Cache.Event := [.insert default 0, .flush 10 true]
    let c := (Cache.create (Duration.ofSeconds 300).seconds).run events
    (∃ e ∈ events, e.reaches "") ∧ Cache.flushesSince "" events ≤ 1 ∧ "" ∈ c.listed ∧
      beat (Cache.newValues (Cache.latest (Cache.pending events)) "") = 0 := by
  intro events c
  have hheard : ∃ e ∈ events, e.reaches "" := ⟨.insert default 0, .head _, rfl⟩
  have hsince : Cache.flushesSince "" events ≤ 1 := by decide
  obtain ⟨-, -, -, hlisted, -⟩ := hosts_reported (Duration.ofSeconds 300) events {} true 1000000
  exact ⟨hheard, hsince, hlisted "" hheard hsince, rfl⟩

end Scrape

end ScrapeBridge
