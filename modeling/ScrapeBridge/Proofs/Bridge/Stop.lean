import Mathlib.Data.List.Induction
import ScrapeBridge.Proofs.Bridge.Start
import ScrapeBridge.Proofs.Counting

namespace ScrapeBridge.Bridge

open Text (fingerprint)

/-- The connections whose counters are found under a label. -/
def labelled (b : Bridge) (label : String) : List Connection :=
  b.connections.filter fun c => fingerprint c.endpoint = fingerprint label

theorem labelled_eq_of_unshared {b : Bridge} {label : String}
    (hunshared : ∀ c ∈ b.connections, fingerprint c.endpoint = fingerprint label →
      c.endpoint = label) :
    b.labelled label = b.connections.filter (·.endpoint = label) := by
  refine List.filter_congr fun c hc => ?_
  rw [decide_eq_decide]
  exact ⟨hunshared c hc, fun h => by rw [h]⟩

section

variable {l : List Connection} {handed : List (Nat × Origin × Body)}

theorem countP_handed (label : String) (count : Connection → Nat)
    (horigin : ∀ h ∈ handed, ∀ c : Connection, l[h.1]? = some c → h.2.1 = origin c)
    (hcount : ∀ (i : Nat) (c : Connection), l[i]? = some c →
      (handed.filter (·.1 = i)).length = count c) :
    handed.countP (fun h => decide (h.1 < l.length) && Given.isFor label h.2) =
      ((l.filter fun c => fingerprint c.endpoint = fingerprint label).map count).sum := by
  induction l using List.reverseRecOn with
  | nil => simp
  | append_singleton l c ih =>
    have hleft : ∀ (i : Nat) (d : Connection), l[i]? = some d → (l ++ [c])[i]? = some d := by
      intro i d hd
      obtain ⟨hi, -⟩ := List.getElem?_eq_some_iff.mp hd
      rw [List.getElem?_append_left hi, hd]
    have hl := ih (fun h hh d hd => horigin h hh d (hleft _ d hd))
      (fun i d hd => hcount i d (hleft i d hd))
    have hlast : (l ++ [c])[l.length]? = some c := by simp
    have hmine : ∀ h ∈ handed.filter (·.1 = l.length), Given.isFor label h.2 =
        decide (fingerprint c.endpoint = fingerprint label) := by
      intro h hh
      obtain ⟨hmem, hi⟩ := List.mem_filter.mp hh
      have hc := horigin h hmem c (by rw [of_decide_eq_true hi]; exact hlast)
      rw [Given.isFor, hc]
      rfl
    -- Those of the last connection are counted apart from the others.
    rw [List.countP_eq_countP_filter_add _ _ (fun h => decide (h.1 = l.length)), Nat.add_comm]
    rw [List.filter_append, List.map_append, List.sum_append, ← hl]
    congr 1
    · rw [List.countP_filter]
      refine List.countP_congr fun h _ => ?_
      simp only [List.length_append, List.length_singleton, Bool.and_eq_true, decide_eq_true_eq,
        Bool.not_eq_true', decide_eq_false_iff_not]
      constructor
      · rintro ⟨⟨hi, hfor⟩, hne⟩
        exact ⟨by omega, hfor⟩
      · rintro ⟨hi, hfor⟩
        exact ⟨⟨by omega, hfor⟩, by omega⟩
    · by_cases hc : fingerprint c.endpoint = fingerprint label
      · have hall : ∀ h ∈ handed.filter (·.1 = l.length),
            (decide (h.1 < (l ++ [c]).length) && Given.isFor label h.2) = true := by
          intro h hh
          have hi := of_decide_eq_true (List.mem_filter.mp hh).2
          simp [hmine h hh, hc, hi]
        rw [List.countP_eq_length.mpr hall, hcount l.length c hlast]
        simp [hc]
      · have hnone : ∀ h ∈ handed.filter (·.1 = l.length),
            ¬ (decide (h.1 < (l ++ [c]).length) && Given.isFor label h.2) = true := by
          intro h hh
          simp [hmine h hh, hc]
        rw [List.countP_eq_zero.mpr hnone]
        simp [hc]

end

section

variable (l : List Connection) (m : SelfMetrics)

theorem processed_addCounts : (l.foldl addCounts m).processed = m.processed := by
  induction l generalizing m with
  | nil => rfl
  | cons c l ih => exact ih (addCounts m c)

theorem dropped_addCounts : (l.foldl addCounts m).dropped = m.dropped := by
  induction l generalizing m with
  | nil => rfl
  | cons c l ih => exact ih (addCounts m c)

theorem received_addCounts {label : String} {n : Nat}
    (hm : m.received.read label = Counters.tally n) :
    (l.foldl addCounts m).received.read label =
      Counters.tally (n + ((l.filter fun c => fingerprint c.endpoint = fingerprint label).map
        (·.received)).sum) := by
  induction l generalizing m n with
  | nil => exact hm
  | cons c l ih =>
    have hread : (addCounts m c).received.read label =
        if fingerprint c.endpoint = fingerprint label
        then c.received.repeat (· + 1) (Counters.tally n) else Counters.tally n := by
      change ((m.received.touch c.endpoint).tick c.endpoint c.received).read label = _
      rw [Counters.read_tick, Counters.read_touch, hm]
    rw [List.foldl_cons, List.filter_cons]
    by_cases hc : fingerprint c.endpoint = fingerprint label
    · rw [if_pos hc, ← Counters.tally_add] at hread
      rw [ih _ hread]
      simp [hc, Nat.add_assoc]
    · rw [if_neg hc] at hread
      rw [ih _ hread]
      simp [hc]

end

/-- All connections under a label together have received what they have pushed, and at most one body
more for each that has not taken all that it was to take. -/
theorem sum_received {l : List Connection} (hl : ∀ c ∈ l, c.Kept ∧ c.phase = .ended) :
    (l.map (·.pushes.length)).sum ≤ (l.map (·.received)).sum ∧
      (l.map (·.received)).sum ≤ (l.map (·.pushes.length)).sum + l.countP (!·.isFinished) := by
  induction l with
  | nil => simp
  | cons c l ih =>
    obtain ⟨hle, hge⟩ := ih fun d hd => hl d (.tail _ hd)
    obtain ⟨hkept, hended⟩ := hl c (.head _)
    obtain ⟨hpushed, hreceived⟩ := hkept.received_of_ended hended
    rw [List.map_cons, List.map_cons, List.sum_cons, List.sum_cons, List.countP_cons]
    by_cases hfinished : c.isFinished = true
    · rw [if_pos hfinished] at hreceived
      rw [if_neg (by simp [hfinished])]
      omega
    · rw [if_neg hfinished] at hreceived
      rw [if_pos (by simp [hfinished])]
      omega

/-- What the counters under a label read, and how that fits the connections under it. -/
structure Accounted (b : Bridge) (label : String) (processed dropped received : Nat) : Prop where
  processed_eq : b.metrics.processed.read label = Counters.tally processed
  dropped_eq : b.metrics.dropped.read label = Counters.tally dropped
  received_eq : b.metrics.received.read label = Counters.tally received
  pushed : processed + dropped = ((b.labelled label).map (·.pushes.length)).sum
  undecodable : dropped =
    b.handed.countP fun h => Given.isFor label h.2 && !Given.isDecodable h.2
  counted : processed + dropped ≤ received
  interrupted : received ≤ processed + dropped + (b.labelled label).countP (!·.isFinished)

theorem Accounted.exact {b : Bridge} {label : String} {processed dropped received : Nat}
    (h : b.Accounted label processed dropped received) (hreceived : received ≤ 2 ^ 53) :
    b.metrics.processed.read label + b.metrics.dropped.read label =
      Scrape.count ((b.labelled label).map (·.pushes.length)).sum := by
  have hsum := h.counted
  rw [h.processed_eq, h.dropped_eq, Scrape.tally_eq_count (by omega),
    Scrape.tally_eq_count (by omega), Scrape.count_add (by omega), h.pushed]

section

variable {b : Bridge} {config : Config}

theorem worker_of_isStopped (hstopped : b.isStopped = true) :
    b.dispatcher.intake.worker = .stopped := by
  simpa [isStopped] using ((Bool.and_eq_true _ _).mp hstopped).2

theorem Sound.handedBy_eq_pushes (h : b.Sound config) (hstopped : b.isStopped = true) {i : Nat}
    {c : Connection} (hc : b.connections[i]? = some c) :
    b.handedBy i = c.pushes ∧ c.phase = .ended := by
  have hmem := List.mem_of_getElem? hc
  obtain ⟨hended, htaken⟩ :=
    h.finished (h.dispatched.isStopped_of_worker (worker_of_isStopped hstopped))
  have hbuffer : c.buffer = [] := List.isEmpty_iff.mp (List.all_eq_true.mp htaken c hmem)
  refine ⟨?_, of_decide_eq_true (List.all_eq_true.mp hended c hmem)⟩
  rw [h.handed_eq i c hc, (h.kept c hmem).pushes_eq, hbuffer, List.append_nil]

theorem Sound.countP_isFor (h : b.Sound config) (hstopped : b.isStopped = true) (label : String) :
    (b.handed.countP fun g => Given.isFor label g.2) =
      ((b.labelled label).map (·.pushes.length)).sum := by
  have hcount : ∀ (i : Nat) (c : Connection), b.connections[i]? = some c →
      (b.handed.filter (·.1 = i)).length = c.pushes.length := by
    intro i c hc
    rw [← (h.handedBy_eq_pushes hstopped hc).1, handedBy, List.length_map]
  have horigin : ∀ g ∈ b.handed, ∀ c : Connection, b.connections[g.1]? = some c →
      g.2.1 = origin c := by
    intro g hg c hc
    have hsome := h.handed_origin g hg
    rw [hc] at hsome
    exact (Option.some.inj hsome).symm
  rw [labelled, ← countP_handed label _ horigin hcount]
  refine List.countP_congr fun g hg => ?_
  obtain ⟨c, hc, -⟩ := Option.map_eq_some_iff.mp (h.handed_origin g hg)
  obtain ⟨hi, -⟩ := List.getElem?_eq_some_iff.mp hc
  simp [hi]

theorem Sound.accounted (h : b.Sound config) (hstopped : b.isStopped = true) (label : String) :
    ∃ processed dropped received, b.Accounted label processed dropped received := by
  obtain ⟨-, htallies⟩ := h.dispatched.merged_of_stopped (worker_of_isStopped hstopped)
  have hprocessed := htallies.processed label
  have hdropped := htallies.dropped label
  have hreceived := received_addCounts b.connections _ (htallies.received label)
  rw [List.countP_map] at hprocessed hdropped
  rw [Nat.zero_add] at hreceived
  have hsplit := List.countP_eq_countP_filter_add b.handed (fun g => Given.isFor label g.2)
    (fun g => Given.isDecodable g.2)
  rw [List.countP_filter, List.countP_filter, h.countP_isFor hstopped label] at hsplit
  have hended : ∀ c ∈ b.labelled label, c.Kept ∧ c.phase = .ended := by
    intro c hc
    have hmem := List.mem_of_mem_filter hc
    obtain ⟨i, hi⟩ := List.mem_iff_getElem?.mp hmem
    exact ⟨h.kept c hmem, (h.handedBy_eq_pushes hstopped hi).2⟩
  obtain ⟨hle, hge⟩ := sum_received hended
  refine ⟨b.handed.countP fun g => Given.isFor label g.2 && Given.isDecodable g.2,
    b.handed.countP fun g => Given.isFor label g.2 && !Given.isDecodable g.2,
    ((b.labelled label).map (·.received)).sum, ?_⟩
  exact {
    processed_eq := by
      rw [metrics, processed_addCounts]
      exact hprocessed
    dropped_eq := by
      rw [metrics, dropped_addCounts]
      exact hdropped
    received_eq := hreceived
    pushed := hsplit.symm
    undecodable := rfl
    counted := hsplit ▸ hle
    interrupted := hsplit ▸ hge }

end

/-- A stop loses nothing that was buffered: what the connections have pushed has been handed over,
each body once and those of one connection in order, and all samples in it have been merged in that
order. A body that cannot be decoded has no samples. -/
theorem stop_delivers_buffered {config : Config} {route : Nat → SourceConfig → Except String Route}
    {b₀ : Bridge} (hstart : start config route = (b₀, none)) (events : List Event)
    (hstopped : (b₀.run events).isStopped = true) :
    let b := b₀.run events
    b.connections.length = config.connections.length ∧
    (∀ h ∈ b.handed, b.connections[h.1]?.map origin = some h.2.1) ∧
    (∀ i c, b.connections[i]? = some c → b.handedBy i = c.pushes ∧
      c.pushes.length ≤ c.received ∧
      c.received ≤ c.pushes.length + if c.isFinished then 0 else 1) ∧
    b.dispatcher.intake.merged = b.handed.flatMap (fun h => Given.samples h.2) ∧
    b.dispatcher.intake.Fills config.timeToLive.seconds ∧
    (∀ label, ∃ processed dropped received, b.Accounted label processed dropped received ∧
      (received ≤ 2 ^ 53 →
        b.metrics.processed.read label + b.metrics.dropped.read label =
          Scrape.count ((b.labelled label).map (·.pushes.length)).sum)) ∧
    ∀ label, (∀ c ∈ b.connections, fingerprint c.endpoint = fingerprint label →
      c.endpoint = label) → b.labelled label = b.connections.filter (·.endpoint = label) := by
  intro b
  have h : b.Sound config := (sound_start hstart).run events
  obtain ⟨hmerged, -⟩ := h.dispatched.merged_of_stopped (worker_of_isStopped hstopped)
  refine ⟨h.complete, h.handed_origin, ?_, ?_, h.dispatched.fills, ?_, ?_⟩
  · intro i c hc
    obtain ⟨hpushes, hended⟩ := h.handedBy_eq_pushes hstopped hc
    exact ⟨hpushes, (h.kept c (List.mem_of_getElem? hc)).received_of_ended hended⟩
  · rw [hmerged, List.flatMap_map]
  · intro label
    obtain ⟨processed, dropped, received, haccounted⟩ := h.accounted hstopped label
    exact ⟨processed, dropped, received, haccounted, haccounted.exact⟩
  · intro label hunshared
    exact labelled_eq_of_unshared hunshared

/-- A body that is decoded, one that cannot be, and one that a stop finds waiting for room. -/
theorem stop_delivers_buffered_of_full_buffer :
    ∃ (config : Config) (route : Nat → SourceConfig → Except String Route) (b₀ : Bridge)
      (events : List Event),
      start config route = (b₀, none) ∧ (b₀.run events).isStopped = true ∧
      (b₀.run events).connections.map (·.received) = [3] ∧
      (b₀.run events).handed.map (·.1) = [0, 0] ∧
      (b₀.run events).dispatcher.intake.merged.length = 1 ∧
      (b₀.run events).dispatcher.intake.merged =
        (b₀.run events).handed.flatMap (fun h => Given.samples h.2) := by
  let body := "[\x7b\"host\":\"h\",\"plugin\":\"cpu\",\"plugin_instance\":\"\",\"type\":\"idle\"," ++
    "\"type_instance\":\"\",\"dsnames\":[\"value\"],\"dstypes\":[\"gauge\"],\"values\":[1]," ++
    "\"time\":1,\"interval\":10\x7d]"
  let config : Config := { connections := [⟨"amqp://bus/a", .collectd⟩], bufferSize := 1 }
  let route (_ : Nat) (s : SourceConfig) : Except String Route :=
    .ok { endpoint := s.url, feed := [.ok body.toUTF8.toList, .ok [0xff], .ok [0xff]] }
  let events : List Event := [.step 0 true, .step 0 true, .deliver 0, .step 0 true, .step 0 true,
    .step 0 true, .stop, .step 0 true, .dispatch, .work 0 true, .dispatch, .dispatch, .deliver 0,
    .passStop, .passStop, .work 0 true, .work 0 true]
  have hstart : start config route = ((start config route).1, none) :=
    Prod.ext rfl (by decide +kernel)
  obtain ⟨hstopped, hreceived, hhanded, hlength⟩ :
      ((start config route).1.run events).isStopped = true ∧
      ((start config route).1.run events).connections.map (·.received) = [3] ∧
      ((start config route).1.run events).handed.map (·.1) = [0, 0] ∧
      ((start config route).1.run events).dispatcher.intake.merged.length = 1 := by
    decide +kernel
  obtain ⟨-, -, -, hmerged, -⟩ := stop_delivers_buffered hstart events hstopped
  exact ⟨config, route, _, events, hstart, hstopped, hreceived, hhanded, hlength, hmerged⟩

/-- Two endpoints with one fingerprint: under the name of either the bodies of both are counted. -/
theorem stop_counts_shared_fingerprint :
    ∃ (config : Config) (route : Nat → SourceConfig → Except String Route) (b₀ : Bridge)
      (events : List Event) (label : String),
      start config route = (b₀, none) ∧ (b₀.run events).isStopped = true ∧
      label ∈ (b₀.run events).connections.map (·.endpoint) ∧
      (b₀.run events).metrics.processed.read label + (b₀.run events).metrics.dropped.read label ≠
        Scrape.count (((b₀.run events).connections.filter (·.endpoint = label)).map
          (·.pushes.length)).sum := by
  let config : Config := {
    connections := [
      ⟨"8yn0iYCKYHlIj4-BwPqk/a", .collectd⟩,
      ⟨"GReLUrM4wMqfg9yzV3KQ/a", .collectd⟩] }
  let route (_ : Nat) (s : SourceConfig) : Except String Route :=
    .ok { endpoint := s.url, feed := [.ok [0xff]] }
  let events : List Event := [.step 0 true, .step 0 true, .step 1 true, .step 1 true, .stop,
    .step 0 true, .step 1 true, .deliver 0, .deliver 1, .passStop, .passStop, .work 0 true,
    .work 0 true]
  refine ⟨config, route, (start config route).1, events, "8yn0iYCKYHlIj4-BwPqk/a",
    Prod.ext rfl ?_, ?_, ?_, ?_⟩
  all_goals decide +kernel

end ScrapeBridge.Bridge
