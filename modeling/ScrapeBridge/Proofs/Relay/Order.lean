import ScrapeBridge.Proofs.Cache.Shuffle
import ScrapeBridge.Proofs.Interval
import ScrapeBridge.Proofs.Relay

namespace ScrapeBridge

def Delivery.samples (d : Delivery) : List Sample :=
  (decodeMessage d.dataSource d.body).toOption.getD []

/-- Each connection has delivered the same in the same order. -/
def SameStreams (ds es : List Delivery) : Prop :=
  ∀ connection, ds.filter (·.connection = connection) = es.filter (·.connection = connection)

/-- No host sends over two connections. -/
def Apart (ds : List Delivery) : Prop :=
  ∀ d ∈ ds, ∀ e ∈ ds, d.connection ≠ e.connection →
    ∀ s ∈ d.samples, ∀ t ∈ e.samples, s.hostKey ≠ t.hostKey

section

variable {ds es : List Delivery}

theorem SameStreams.perm (h : SameStreams ds es) : ds.Perm es := by
  classical
  rw [List.perm_iff_count]
  intro d
  have hcount : ∀ l : List Delivery,
      (l.filter (·.connection = d.connection)).count d = l.count d :=
    fun l => List.count_filter (decide_eq_true rfl)
  rw [← hcount ds, h, hcount es]

theorem sameStreams_pair {d e : Delivery} (hne : d.connection ≠ e.connection) :
    SameStreams [d, e] [e, d] := by
  intro connection
  by_cases hd : d.connection = connection
  · have he : e.connection ≠ connection := fun he => hne (hd.trans he.symm)
    simp [hd, he]
  · simp [List.filter_cons, hd]

theorem apart_pair {d e : Delivery} (h : ∀ s ∈ d.samples, ∀ t ∈ e.samples, s.hostKey ≠ t.hostKey) :
    Apart [d, e] := by
  intro c hc c' hc' hne s hs t ht
  rw [List.mem_pair] at hc hc'
  rcases hc with rfl | rfl <;> rcases hc' with rfl | rfl
  · exact absurd rfl hne
  · exact h s hs t ht
  · exact (h t ht s hs).symm
  · exact absurd rfl hne

theorem filter_samples {host : String} {connection : Nat}
    (h : ∀ d ∈ ds, d.connection ≠ connection → ∀ s ∈ d.samples, s.hostKey ≠ host) :
    (ds.flatMap (·.samples)).filter (·.hostKey = host) =
      ((ds.filter (·.connection = connection)).flatMap (·.samples)).filter (·.hostKey = host) := by
  induction ds with
  | nil => rfl
  | cons d ds ih =>
    have hrest := ih fun e he => h e (List.mem_cons_of_mem _ he)
    rw [List.flatMap_cons, List.filter_append, hrest]
    by_cases hd : d.connection = connection
    · rw [List.filter_cons_of_pos (by simpa using hd), List.flatMap_cons, List.filter_append]
    · have hnone : d.samples.filter (·.hostKey = host) = [] := by
        rw [List.filter_eq_nil_iff]
        intro s hs
        simpa using h d List.mem_cons_self hd s hs
      rw [List.filter_cons_of_neg (by simpa using hd), hnone, List.nil_append]

theorem SameStreams.filter_samples (h : SameStreams ds es) (hapart : Apart ds) (host : String) :
    (ds.flatMap (·.samples)).filter (·.hostKey = host) =
      (es.flatMap (·.samples)).filter (·.hostKey = host) := by
  obtain ⟨connection, hother⟩ : ∃ connection,
      ∀ d ∈ ds, d.connection ≠ connection → ∀ s ∈ d.samples, s.hostKey ≠ host := by
    by_cases hhost : ∃ d ∈ ds, ∃ s ∈ d.samples, s.hostKey = host
    · obtain ⟨e, he, t, ht, rfl⟩ := hhost
      exact ⟨e.connection, fun d hd hne s hs => hapart d hd e he hne s hs t ht⟩
    · exact ⟨0, fun d hd _ s hs heq => hhost ⟨d, hd, s, hs, heq⟩⟩
  rw [ScrapeBridge.filter_samples hother, h,
    ScrapeBridge.filter_samples fun d hd => hother d (h.perm.mem_iff.mpr hd)]

end

namespace Sources

variable {sources : Sources} {ds : List Delivery} {given : List Given}

def given? (sources : Sources) (d : Delivery) : Option Given :=
  ((MessageFanIn.ofList sources).origin? d.connection).map (·, d.body)

theorem eq_filterMap_of_declare (hnodup : (sources.map (·.2.index)).Nodup)
    (h : List.Forall₂ sources.Declare ds given) : given = ds.filterMap sources.given? := by
  induction h with
  | nil => rfl
  | @cons d g ds given hd _ ih =>
    obtain ⟨i, hi, hindex, -, hbody⟩ := hd
    have hgiven : sources.given? d = some g := by
      rw [given?, ← hindex, MessageFanIn.origin?_ofList hnodup hi, ← hbody]
      rfl
    rw [List.filterMap_cons_some hgiven, ← ih]

theorem samples_of_declare (h : List.Forall₂ sources.Declare ds given) :
    given.flatMap (·.samples) = ds.flatMap (·.samples) := by
  induction h with
  | nil => rfl
  | @cons d g ds given hd _ ih =>
    obtain ⟨i, -, -, hsource, hbody⟩ := hd
    have hsamples : g.samples = d.samples := by rw [Given.samples, hsource, hbody]; rfl
    rw [List.flatMap_cons, List.flatMap_cons, hsamples, ih]

end Sources

namespace Relay

def Event.IsAt (now : Int) : Event → Prop
  | work t _ => t = now
  | flush _ _ => False
  | _ => True

/-- What samples have been put in since a relay was in some state, and which have been merged. -/
structure Absorbs (now : Int) (r r' : Relay) (put merged : List Sample) : Prop where
  passed_eq : r'.dispatcher.intake.passed = r.dispatcher.intake.passed ++ put
  minInterval_eq : r'.dispatcher.metrics.minInterval =
    (put.map (·.interval)).foldl SelfMetrics.lower r.dispatcher.metrics.minInterval
  merged_eq : r'.dispatcher.intake.merged = r.dispatcher.intake.merged ++ merged
  cache_eq : r'.dispatcher.intake.cache =
    r.dispatcher.intake.cache.run (Cache.inserts now merged)

section

variable {r r' r'' : Relay} {now : Int} {put put' merged merged' : List Sample}

theorem absorbs_of_eq (hintake : r'.dispatcher.intake = r.dispatcher.intake)
    (hinterval : r'.dispatcher.metrics.minInterval = r.dispatcher.metrics.minInterval) :
    r.Absorbs now r' [] [] := by
  refine ⟨?_, hinterval, ?_, ?_⟩
  all_goals rw [hintake]
  · exact (List.append_nil _).symm
  · exact (List.append_nil _).symm
  · rfl

theorem Absorbs.trans (h : r.Absorbs now r' put merged) (h' : r'.Absorbs now r'' put' merged') :
    r.Absorbs now r'' (put ++ put') (merged ++ merged') where
  passed_eq := by rw [h'.passed_eq, h.passed_eq, List.append_assoc]
  minInterval_eq := by
    rw [h'.minInterval_eq, h.minInterval_eq, List.map_append, List.foldl_append]
  merged_eq := by rw [h'.merged_eq, h.merged_eq, List.append_assoc]
  cache_eq := by
    rw [h'.cache_eq, h.cache_eq, Cache.run_run, Cache.inserts, Cache.inserts, Cache.inserts,
      List.map_append]

theorem absorbs_accept (messages : MessageFanIn) (delivery : Option Delivery) :
    r.Absorbs now ⟨messages, r.accept delivery⟩ [] [] := by
  cases delivery with
  | none => exact absorbs_of_eq rfl rfl
  | some d =>
    rw [accept]
    split
    case h_1 o horigin =>
      rw [Dispatcher.begin]
      split
      · exact absorbs_of_eq rfl rfl
      · exact absorbs_of_eq rfl rfl
    case h_2 => exact absorbs_of_eq rfl rfl

theorem exists_absorbs_step (hopen : r.dispatcher.intake.isClosed = false) {d : Dispatcher}
    (hstep : r.dispatcher.step? = some d) :
    ∃ put, r.Absorbs now { r with dispatcher := d } put [] := by
  unfold Dispatcher.step? at hstep
  split at hstep
  case h_1 endpoint s samples htask =>
    cases hstep
    have hput := r.dispatcher.intake.put_cases s
    refine ⟨[s], hput.passed_eq hopen, ?_, ?_, hput.keeps.2⟩
    · exact SelfMetrics.minInterval_observeInterval _ _
    · exact hput.keeps.1.trans (List.append_nil _).symm
  case h_2 endpoint htask =>
    cases hstep
    exact ⟨[], absorbs_of_eq rfl rfl⟩
  case h_3 ticket endpoint samples htask =>
    split at hstep <;> cases hstep
    · exact ⟨[], absorbs_of_eq rfl rfl⟩
    · exact ⟨[], absorbs_of_eq rfl rfl⟩
  all_goals cases hstep

theorem exists_absorbs_move {i : Intake} (hmove : r.dispatcher.intake.Move now i)
    (hstopping : r.dispatcher.intake.stopping = false) :
    ∃ merged, r.Absorbs now (r.withIntake i) [] merged := by
  obtain ⟨merged, hmerged, hcache⟩ := hmove.exists_inserts
  refine ⟨merged, ?_, rfl, hmerged, hcache⟩
  rw [List.append_nil]
  apply hmove.passed_eq
  intro hstop
  rw [hstopping] at hstop
  cases hstop

variable {sources : Sources} {seconds : Nat} {asked : List (FanIn.Event (List UInt8))}
  {answers : List (Option Delivery)} {given : List Given}

theorem Sound.exists_absorbs_apply (h : r.Sound sources seconds asked answers given) {e : Event}
    (he : e.IsAt now) : ∃ put merged, r.Absorbs now (r.apply e) put merged := by
  obtain ⟨hworker, hstopping⟩ := h.running
  cases e with
  | push connection body => exact ⟨[], [], absorbs_of_eq rfl rfl⟩
  | finish connection => exact ⟨[], [], absorbs_of_eq rfl rfl⟩
  | stop => exact ⟨[], [], absorbs_of_eq rfl rfl⟩
  | ask choice =>
    rw [Relay.apply]
    split
    · exact ⟨[], [], absorbs_accept _ _⟩
    · exact ⟨[], [], absorbs_of_eq rfl rfl⟩
  | step =>
    rw [Relay.apply]
    cases hstep : r.dispatcher.step? with
    | none => exact ⟨[], [], absorbs_of_eq rfl rfl⟩
    | some d =>
      have hopen : r.dispatcher.intake.isClosed = false := by rw [Intake.isClosed, hworker]; rfl
      obtain ⟨put, hput⟩ : ∃ put, r.Absorbs now { r with dispatcher := d } put [] :=
        exists_absorbs_step hopen hstep
      exact ⟨put, [], hput⟩
  | work t stopFirst =>
    obtain rfl : t = now := he
    rw [Relay.apply]
    cases hwork : r.dispatcher.intake.work? t stopFirst with
    | none => exact ⟨[], [], absorbs_of_eq rfl rfl⟩
    | some i => exact ⟨[], exists_absorbs_move (Intake.move_of_work? hwork) hstopping⟩
  | letIn =>
    rw [Relay.apply]
    cases hletIn : r.dispatcher.intake.letIn? with
    | none => exact ⟨[], [], absorbs_of_eq rfl rfl⟩
    | some i => exact ⟨[], exists_absorbs_move (Intake.move_of_letIn? hletIn now) hstopping⟩
  | flush t useTimestamp => exact he.elim

theorem Sound.exists_absorbs_run (hnodup : (sources.map (·.2.index)).Nodup)
    (h : r.Sound sources seconds asked answers given) {events : List Event}
    (hevents : ∀ e ∈ events, e.IsAt now) :
    ∃ put merged, r.Absorbs now (r.run events) put merged := by
  induction events using List.reverseRecOn with
  | nil => exact ⟨[], [], absorbs_of_eq rfl rfl⟩
  | append_singleton events e ih =>
    obtain ⟨put, merged, habsorbs⟩ := ih fun e he => hevents e (List.mem_append_left _ he)
    obtain ⟨more, hsound⟩ := h.run hnodup events
    obtain ⟨put', merged', hlast⟩ := hsound.exists_absorbs_apply (hevents e (by simp))
    rw [run_concat]
    exact ⟨_, _, habsorbs.trans hlast⟩

/-- The samples that are on their way into the cache. -/
def underway (r : Relay) : List Sample :=
  Intake.samples r.dispatcher.intake.queue ++
    Intake.samples (r.dispatcher.intake.waiting.map (·.2)) ++ r.dispatcher.remaining

theorem Sound.absorbs_of_rest (hnodup : (sources.map (·.2.index)).Nodup)
    (h : r.Sound sources seconds asked answers given) {events : List Event}
    (hevents : ∀ e ∈ events, e.IsAt now) {t : Int}
    (hrest : (r.run events).dispatcher.advance? t = none) :
    r.Absorbs now (r.run events)
        (r.dispatcher.remaining ++ (r.answers events).reduceOption.flatMap (·.samples))
        (r.underway ++ (r.answers events).reduceOption.flatMap (·.samples)) ∧
      (r.run events).dispatcher.metrics.Tallies
        (given ++ (r.answers events).reduceOption.filterMap sources.given?) := by
  obtain ⟨put, merged, habsorbs⟩ := h.exists_absorbs_run hnodup hevents
  obtain ⟨more, hsound⟩ := h.run hnodup events
  obtain ⟨htallies, hmerged⟩ := hsound.rest hrest
  have hdeclared := hsound.declared
  rw [List.reduceOption_append] at hdeclared
  have hgiven : given ++ more =
      given ++ (r.answers events).reduceOption.filterMap sources.given? := by
    rw [Sources.eq_filterMap_of_declare hnodup hdeclared, List.filterMap_append,
      ← Sources.eq_filterMap_of_declare hnodup h.declared]
  have hsamples : (given ++ more).flatMap (·.samples) =
      r.dispatcher.intake.passed ++ r.dispatcher.remaining ++
        (r.answers events).reduceOption.flatMap (·.samples) := by
    rw [h.ledger.passed_eq, Sources.samples_of_declare hdeclared, List.flatMap_append,
      ← Sources.samples_of_declare h.declared]
  refine ⟨?_, hgiven ▸ htallies⟩
  -- Both accounts begin with what there was before the events, which cancels.
  have hput : put = r.dispatcher.remaining ++
      (r.answers events).reduceOption.flatMap (·.samples) := by
    have hsplit := habsorbs.passed_eq
    rw [hsound.passed_of_rest hrest, hsamples, List.append_assoc] at hsplit
    exact (List.append_cancel_left hsplit).symm
  have hinto : merged = r.underway ++ (r.answers events).reduceOption.flatMap (·.samples) := by
    have hsplit := habsorbs.merged_eq
    rw [hmerged, hsamples, Intake.passed] at hsplit
    simp only [List.append_assoc] at hsplit
    rw [underway, List.append_assoc, List.append_assoc]
    exact (List.append_cancel_left hsplit).symm
  rw [← hput, ← hinto]
  exact habsorbs

theorem isAt_of_isOwn {e : Event} (he : e.IsOwn now) : e.IsAt now := by
  rcases he with rfl | rfl | rfl
  · exact trivial
  · exact rfl
  · exact trivial

theorem Sound.isIdle_settle (hnodup : (sources.map (·.2.index)).Nodup)
    (h : r.Sound sources seconds asked answers given)
    (hrunning : r.dispatcher.isStopped = false) (now : Int) :
    (r.dispatcher.settle now).isIdle = true := by
  have hsettled := h.settle hnodup now
  rcases hsettled.ledger.waits (Dispatcher.advance?_settle _ now) with htask | htask
  · rw [Dispatcher.isIdle, htask]
  · have hstopped : (r.dispatcher.settle now).isStopped = true := by
      rw [Dispatcher.isStopped, htask]
    have hnone := h.isStopped.mpr (hsettled.isStopped.mp hstopped)
    rw [hrunning] at hnone
    cases hnone

/-- What an order has of each connection waits in its buffer, in that order. -/
def Offers (r : Relay) (order : List (Nat × List UInt8)) : Prop :=
  ∀ item ∈ order, ∃ j, r.messages.buffers.inlet? item.1 = some j ∧
    (order.filter (·.1 = item.1)).map (·.2) <+: j.waiting

theorem Sound.offers_ask (hnodup : (sources.map (·.2.index)).Nodup)
    (h : r.Sound sources seconds asked answers given) (hidle : r.dispatcher.isIdle = true)
    {connection : Nat} {body : List UInt8} {order : List (Nat × List UInt8)}
    (hoffers : r.Offers ((connection, body) :: order)) :
    r.answered? (.ask (some connection)) = some (r.messages.tag? (connection, body)) ∧
      (r.apply (.ask (some connection))).messages.tag? = r.messages.tag? ∧
      (r.apply (.ask (some connection))).dispatcher.isStopped = false ∧
      (r.apply (.ask (some connection))).Offers order := by
  obtain ⟨j, hj, hprefix⟩ := hoffers (connection, body) List.mem_cons_self
  rw [List.filter_cons_of_pos (by simp), List.map_cons, List.cons_prefix_iff] at hprefix
  obtain ⟨rest, hwaiting, hrest⟩ := hprefix
  obtain ⟨l, htake⟩ := FanIn.exists_takeFrom hj hwaiting
  obtain ⟨j', rest', hj', hwaiting', hafter⟩ := FanIn.takeFrom_eq_some htake
  have hbuffers : r.messages.buffers.answer? (some connection) =
      some (some (connection, body), { r.messages.buffers with inlets := l }) := by
    rw [FanIn.answer?, htake]
    rfl
  obtain ⟨o, -, hanswered, happly⟩ := h.apply_ask hnodup hidle hbuffers
  rw [happly]
  refine ⟨hanswered, rfl, Dispatcher.isStopped_begin (Dispatcher.task_of_isIdle hidle) o body, ?_⟩
  intro item hitem
  obtain ⟨i, hi, hothers⟩ := hoffers item (List.mem_cons_of_mem _ hitem)
  by_cases hsame : connection = item.1
  · cases hj.symm.trans hj'
    cases hwaiting.symm.trans hwaiting'
    refine ⟨{ j with waiting := rest }, ?_, hsame ▸ hrest⟩
    exact (hafter item.1).trans (if_pos hsame)
  · rw [List.filter_cons_of_neg (by simpa using hsame)] at hothers
    exact ⟨i, (hafter item.1).trans ((if_neg hsame).trans hi), hothers⟩

theorem Sound.exists_run_of_order (hnodup : (sources.map (·.2.index)).Nodup)
    (h : r.Sound sources seconds asked answers given)
    (hrunning : r.dispatcher.isStopped = false) {order : List (Nat × List UInt8)}
    (hoffers : r.Offers order) (now : Int) :
    ∃ events : List Event, (∀ e ∈ events, e.IsAt now) ∧
      r.answers events = order.map r.messages.tag? ∧
      (r.run events).dispatcher.advance? now = none := by
  induction order generalizing r asked answers given with
  | nil =>
    obtain ⟨own, hown, hrun⟩ := exists_run_settle r now
    refine ⟨own, fun e he => isAt_of_isOwn (hown e he), answers_of_isOwn hown, ?_⟩
    rw [hrun]
    exact Dispatcher.advance?_settle _ now
  | cons item order ih =>
    obtain ⟨connection, body⟩ := item
    obtain ⟨own, hown, hrun⟩ := exists_run_settle r now
    have hsettled := h.settle hnodup now
    -- The relay finishes what it has, since only an idle dispatcher asks for another body.
    obtain ⟨hanswered, htag, hrunning', hoffers'⟩ :=
      hsettled.offers_ask hnodup (h.isIdle_settle hnodup hrunning now) hoffers
    obtain ⟨more, hsound⟩ := hsettled.apply hnodup (.ask (some connection))
    obtain ⟨later, hlater, hanswers, hrest⟩ := ih hsound hrunning' hoffers'
    refine ⟨own ++ .ask (some connection) :: later, ?_, ?_, ?_⟩
    · intro e he
      rcases List.mem_append.mp he with he | he
      · exact isAt_of_isOwn (hown e he)
      · rcases List.mem_cons.mp he with rfl | he
        · exact trivial
        · exact hlater e he
    · rw [answers_append, answers_of_isOwn hown, hrun, List.nil_append, Relay.answers, outputs,
        hanswered, List.map_cons]
      exact congrArg _ (hanswers.trans (by rw [htag]))
    · rw [run_append, hrun]
      exact hrest

/-- What relays agree about: the shards of all hosts, the counters, the smallest interval, and what
the next flush emits and reports. -/
structure Agree (r r' : Relay) : Prop where
  shards : r.dispatcher.intake.cache.Alike r'.dispatcher.intake.cache
  processed : ∀ endpoint, r.dispatcher.metrics.processed.read endpoint =
    r'.dispatcher.metrics.processed.read endpoint
  dropped : ∀ endpoint, r.dispatcher.metrics.dropped.read endpoint =
    r'.dispatcher.metrics.dropped.read endpoint
  minInterval : r.dispatcher.metrics.minInterval = r'.dispatcher.metrics.minInterval
  flush : ∀ now useTimestamp,
    (r.dispatcher.intake.cache.flush now useTimestamp).2.readings.Perm
        (r'.dispatcher.intake.cache.flush now useTimestamp).2.readings ∧
      (r.dispatcher.intake.cache.flush now useTimestamp).2.hosts.Perm
        (r'.dispatcher.intake.cache.flush now useTimestamp).2.hosts

theorem Sound.wellFormed (h : r.Sound sources seconds asked answers given) :
    r.dispatcher.intake.cache.WellFormed := by
  obtain ⟨events, hcache, -⟩ := h.ledger.fills
  rw [hcache]
  exact (Cache.wellFormed_create seconds).run events

theorem Sound.isNumber_interval (h : r.Sound sources seconds asked answers given) {s : Sample}
    (hs : s ∈ r.dispatcher.remaining) : IsNumber s.interval := by
  have hpassed := h.ledger.passed_eq
  have hmem : s ∈ given.flatMap (·.samples) := by
    rw [← hpassed]
    exact List.mem_append_right _ hs
  obtain ⟨g, -, hg⟩ := List.mem_flatMap.mp hmem
  exact isNumber_of_mem_samples hg

theorem Sound.agree (hnodup : (sources.map (·.2.index)).Nodup)
    (h : r.Sound sources seconds asked answers given) {events events' : List Event}
    (hevents : ∀ e ∈ events, e.IsAt now) (hevents' : ∀ e ∈ events', e.IsAt now)
    (hsame : SameStreams (r.answers events).reduceOption (r.answers events').reduceOption)
    (hapart : Apart (r.answers events).reduceOption)
    (hrest : (r.run events).dispatcher.advance? now = none)
    (hrest' : (r.run events').dispatcher.advance? now = none) :
    (r.run events).Agree (r.run events') := by
  obtain ⟨habsorbs, htallies⟩ := h.absorbs_of_rest hnodup hevents hrest
  obtain ⟨habsorbs', htallies'⟩ := h.absorbs_of_rest hnodup hevents' hrest'
  obtain ⟨_, hsound⟩ := h.run hnodup events
  obtain ⟨_, hsound'⟩ := h.run hnodup events'
  have hperm := hsame.perm
  have halike : (r.run events).dispatcher.intake.cache.Alike
      (r.run events').dispatcher.intake.cache := by
    rw [habsorbs.cache_eq, habsorbs'.cache_eq]
    apply Cache.alike_inserts h.wellFormed
    intro host
    rw [List.filter_append, List.filter_append, hsame.filter_samples hapart]
  have hcounted := htallies.read_eq htallies' ((hperm.filterMap _).append_left given)
  refine ⟨halike, fun endpoint => (hcounted endpoint).1, fun endpoint => (hcounted endpoint).2,
    ?_, fun t useTimestamp => halike.perm_emission hsound.wellFormed hsound'.wellFormed useTimestamp⟩
  rw [habsorbs.minInterval_eq, habsorbs'.minInterval_eq]
  apply SelfMetrics.foldl_lower_perm ((hperm.flatMap_right _).append_left _)
  intro s hs
  rcases List.mem_append.mp hs with hs | hs
  · exact h.isNumber_interval hs
  · obtain ⟨d, -, hd⟩ := List.mem_flatMap.mp hs
    exact isNumber_of_mem_samples hd

end

end Relay

/-- Whatever a relay has been through, it does not matter how what comes next is interleaved, if each
connection keeps its own order and no host sends over two of them: bodies that wait can be delivered
in every such order, and after any two of them, all at one instant, the relay has the same shards,
the same counters and the same smallest interval, and emits the same when it is flushed. -/
theorem deliveries_agree {sources : Sources} (hsources : (sources.map (·.2.index)).Nodup)
    (seconds : Nat) (before : List Relay.Event) (now : Int) :
    let r := (Relay.start sources seconds).run before
    (r.dispatcher.isStopped = false → ∀ order, r.Offers order → ∃ events : List Relay.Event,
      (∀ e ∈ events, e.IsAt now) ∧ r.answers events = order.map r.messages.tag? ∧
        (r.run events).dispatcher.advance? now = none) ∧
    ∀ events events' : List Relay.Event, (∀ e ∈ events, e.IsAt now) → (∀ e ∈ events', e.IsAt now) →
      SameStreams (r.answers events).reduceOption (r.answers events').reduceOption →
      Apart (r.answers events).reduceOption →
      (r.run events).dispatcher.advance? now = none →
      (r.run events').dispatcher.advance? now = none → (r.run events).Agree (r.run events') := by
  intro r
  obtain ⟨given, h⟩ := Relay.sound_run hsources seconds before
  refine ⟨fun hrunning order hoffers => h.exists_run_of_order hsources hrunning hoffers now, ?_⟩
  intro events events' hevents hevents' hsame hapart hrest hrest'
  exact h.agree hsources hevents hevents' hsame hapart hrest hrest'

/-- Two hosts, each on a connection of its own. -/
theorem deliveries_agree_of_two_hosts :
    let a : Delivery := ⟨3, .collectd, "[[[],[],[],0,10,\"a\"]]".toUTF8.toList⟩
    let b : Delivery := ⟨5, .collectd, "[[[],[],[],0,5,\"b\"]]".toUTF8.toList⟩
    let sources : Sources :=
      [(⟨"x", .collectd⟩, ⟨3, [a.body], true⟩), (⟨"y", .collectd⟩, ⟨5, [b.body], false⟩)]
    let r := Relay.start sources 300
    a.samples.map (·.hostKey) = ["a"] ∧ b.samples.map (·.hostKey) = ["b"] ∧
      ∃ events events' : List Relay.Event, r.answers events = [some a, some b] ∧
        r.answers events' = [some b, some a] ∧ (r.run events).Agree (r.run events') := by
  intro a b sources r
  have ha : a.samples.map (·.hostKey) = ["a"] := by decide +kernel
  have hb : b.samples.map (·.hostKey) = ["b"] := by decide +kernel
  have hsources : (sources.map (·.2.index)).Nodup := by decide
  obtain ⟨hexists, hagree⟩ := deliveries_agree hsources 300 [] 0
  have hoffersA : Relay.Offers r [a.item, b.item] := by
    simp only [Relay.Offers, List.forall_mem_cons]
    exact ⟨⟨_, rfl, List.prefix_rfl⟩, ⟨_, rfl, List.prefix_rfl⟩, by simp⟩
  have hoffersB : Relay.Offers r [b.item, a.item] := by
    simp only [Relay.Offers, List.forall_mem_cons]
    exact ⟨⟨_, rfl, List.prefix_rfl⟩, ⟨_, rfl, List.prefix_rfl⟩, by simp⟩
  obtain ⟨events, hevents, hanswers, hrest⟩ := hexists rfl _ hoffersA
  obtain ⟨events', hevents', hanswers', hrest'⟩ := hexists rfl _ hoffersB
  have hfirst : r.answers events = [some a, some b] := hanswers
  have hlast : r.answers events' = [some b, some a] := hanswers'
  refine ⟨ha, hb, events, events', hfirst, hlast,
    hagree events events' hevents hevents' ?_ ?_ hrest hrest'⟩
  · change SameStreams (r.answers events).reduceOption (r.answers events').reduceOption
    rw [hfirst, hlast]
    exact sameStreams_pair (by decide : a.connection ≠ b.connection)
  · change Apart (r.answers events).reduceOption
    rw [hfirst]
    apply apart_pair
    intro s hs t ht heq
    have hsa : s.hostKey ∈ ["a"] := ha ▸ List.mem_map_of_mem hs
    have htb : t.hostKey ∈ ["b"] := hb ▸ List.mem_map_of_mem ht
    rw [heq, List.mem_singleton.mp htb] at hsa
    exact absurd hsa (by decide)

end ScrapeBridge
