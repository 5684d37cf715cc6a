import ScrapeBridge.Proofs.Dispatch
import ScrapeBridge.Proofs.FanIn
import ScrapeBridge.Relay

namespace ScrapeBridge

def Delivery.item (d : Delivery) : Nat × List UInt8 := (d.connection, d.body)

abbrev Sources := List (Origin × Inlet (List UInt8))

/-- A body is delivered with the index and the data source that were declared for its connection. -/
def Sources.Declare (sources : Sources) (d : Delivery) (g : Given) : Prop :=
  ∃ i, (g.1, i) ∈ sources ∧ i.index = d.connection ∧ g.1.dataSource = d.dataSource ∧ g.2 = d.body

theorem Dispatcher.isStopped_begin {d : Dispatcher} (htask : d.task = .idle) (o : Origin)
    (body : List UInt8) : (d.begin o body).isStopped = false := by
  unfold begin
  cases decodeMessage o.dataSource body with
  | ok samples => rfl
  | error fault => simp [isStopped, htask]

namespace MessageFanIn

variable {sources : Sources}

theorem origin?_ofList (hnodup : (sources.map (·.2.index)).Nodup) {o : Origin}
    {i : Inlet (List UInt8)} (hi : (o, i) ∈ sources) :
    (ofList sources).origin? i.index = some o := by
  induction sources using List.reverseRecOn with
  | nil => cases hi
  | append_singleton sources p ih =>
    have horigins : (ofList (sources ++ [p])).origins =
        (p.2.index, p.1) :: (ofList sources).origins.filter (·.1 ≠ p.2.index) := by
      simp only [ofList, List.foldl_concat]
    rw [List.map_append, List.nodup_append] at hnodup
    rw [origin?, horigins]
    rcases List.mem_append.mp hi with hi | hi
    · have hne : p.2.index ≠ i.index := fun h =>
        hnodup.2.2 _ (List.mem_map_of_mem hi) p.2.index (by simp) h.symm
      have hsame : ((ofList sources).origins.filter (·.1 ≠ p.2.index)).find? (·.1 = i.index) =
          (ofList sources).origins.find? (·.1 = i.index) := by
        rw [List.find?_filter]
        congr 1
        funext e
        grind
      have horigin := ih hnodup.1 hi
      rw [origin?] at horigin
      rw [List.find?_cons_of_neg (by simpa using hne), hsame, horigin]
    · cases List.mem_singleton.mp hi
      simp

theorem answer?_eq_some {m n : MessageFanIn} {choice : Option Nat} {delivery : Option Delivery}
    (h : m.answer? choice = some (delivery, n)) :
    ∃ item buffers, m.buffers.answer? choice = some (item, buffers) ∧
      delivery = item.bind m.tag? ∧ n = { m with buffers } := by
  obtain ⟨⟨item, buffers⟩, hanswer, heq⟩ := Option.map_eq_some_iff.mp h
  cases heq
  exact ⟨item, buffers, hanswer, rfl, rfl⟩

theorem tag?_eq_some (hnodup : (sources.map (·.2.index)).Nodup) {m : MessageFanIn}
    (hm : m.origins = (ofList sources).origins) {item : Nat × List UInt8}
    (hitem : ∃ i ∈ sources.map (·.2), i.index = item.1) :
    ∃ o, m.origin? item.1 = some o ∧ m.tag? item = some ⟨item.1, o.dataSource, item.2⟩ ∧
      sources.Declare ⟨item.1, o.dataSource, item.2⟩ (o, item.2) := by
  obtain ⟨_, hi, hindex⟩ := hitem
  obtain ⟨⟨o, i⟩, hsource, rfl⟩ := List.mem_map.mp hi
  have horigin : m.origin? item.1 = some o := by
    rw [← hindex, origin?, hm]
    exact origin?_ofList hnodup hsource
  exact ⟨o, horigin, by rw [tag?, horigin]; rfl, i, hsource, hindex, rfl, rfl⟩

theorem items_answers (hnodup : (sources.map (·.2.index)).Nodup)
    (events : List (FanIn.Event (List UInt8))) :
    ((ofList sources).answers events).map (·.map Delivery.item) =
        (ofList sources).buffers.answers events ∧
      ∀ d ∈ ((ofList sources).answers events).reduceOption, ∃ g, sources.Declare d g := by
  have hinlets : ((sources.map (·.2)).map (·.index)).Nodup := by rwa [List.map_map]
  have hmerges := FanIn.merges_run hinlets events
  have htag : ∀ item ∈ (ofList sources).buffers.answers events, ∀ p, item = some p →
      ∃ o, (ofList sources).tag? p = some ⟨p.1, o.dataSource, p.2⟩ ∧
        sources.Declare ⟨p.1, o.dataSource, p.2⟩ (o, p.2) := by
    rintro _ hitem p rfl
    obtain ⟨o, -, htag⟩ := tag?_eq_some hnodup rfl
      (hmerges.tagged p (List.reduceOption_mem_iff.mpr hitem))
    exact ⟨o, htag⟩
  constructor
  · rw [answers, List.map_map]
    refine (List.map_congr_left fun item hitem => ?_).trans (List.map_id _)
    cases item with
    | none => rfl
    | some p =>
      obtain ⟨o, ho, -⟩ := htag _ hitem p rfl
      simp [ho, Delivery.item]
  · intro d hd
    obtain ⟨item, hitem, hbind⟩ := List.mem_map.mp (List.reduceOption_mem_iff.mp hd)
    obtain ⟨p, rfl, hp⟩ := Option.bind_eq_some_iff.mp hbind
    obtain ⟨o, ho, hdeclared⟩ := htag _ hitem p rfl
    cases hp.symm.trans ho
    exact ⟨_, hdeclared⟩

theorem exists_answers_deliveries (m : MessageFanIn) (n : Nat) :
    ∃ events : List (FanIn.Event (List UInt8)),
      (m.deliveries n).1 = (m.answers events).reduceOption ∧
        (m.deliveries n).2 = { m with buffers := m.buffers.run events } := by
  obtain ⟨events, hrun, hanswers⟩ := m.buffers.exists_run_takeUpTo n
  refine ⟨events, ?_, by rw [hrun]; rfl⟩
  rw [answers, hanswers, List.reduceOption, List.filterMap_map, List.filterMap_map]
  rfl

end MessageFanIn

namespace Relay

def Event.queue? : Event → Option (FanIn.Event (List UInt8))
  | push connection body => some (.push connection body)
  | finish connection => some (.finish connection)
  | stop => some .stop
  | ask choice => some (.ask choice)
  | _ => none

/-- The relay has been given bodies out of its sources, and its dispatcher has accounts of them. -/
structure Sound (sources : Sources) (seconds : Nat) (r : Relay)
    (events : List (FanIn.Event (List UInt8))) (answers : List (Option Delivery))
    (given : List Given) : Prop where
  origins : r.messages.origins = (MessageFanIn.ofList sources).origins
  merges : FanIn.Merges (sources.map (·.2)) r.messages.buffers events
    (answers.map (·.map Delivery.item))
  declared : List.Forall₂ sources.Declare answers.reduceOption given
  ledger : r.dispatcher.Ledger seconds given
  running : r.dispatcher.intake.worker = .running ∧ r.dispatcher.intake.stopping = false
  isStopped : r.dispatcher.isStopped = true ↔ none ∈ answers

section

variable {sources : Sources} {seconds : Nat} {r : Relay}
  {events : List (FanIn.Event (List UInt8))} {answers : List (Option Delivery)}
  {given : List Given}

theorem sound_start (hnodup : (sources.map (·.2.index)).Nodup) (seconds : Nat) :
    (start sources seconds).Sound sources seconds [] [] [] := by
  obtain ⟨hledger, htask⟩ := (Dispatcher.ledger_start seconds).registerAll rfl
    ((MessageFanIn.ofList sources).origins.map (·.2))
  refine ⟨rfl, FanIn.merges_ofList ?_, .nil, hledger, ?_, ?_⟩
  · rwa [List.map_map]
  · exact hledger.open_of_running (by rw [Dispatcher.isStopped, htask])
  · simp [Dispatcher.isStopped, start, htask]

theorem Sound.feed (h : r.Sound sources seconds events answers given)
    {e : FanIn.Event (List UInt8)} (he : e.isAsk = false) :
    { r with messages := r.messages.apply e }.Sound sources seconds (events ++ [e]) answers
      given :=
  { h with
    origins := h.origins
    merges := h.merges.apply he }

theorem Sound.proceed (h : r.Sound sources seconds events answers given) {d : Dispatcher}
    (hledger : d.Ledger seconds given)
    (hrunning : d.intake.worker = .running ∧ d.intake.stopping = false)
    (hstopped : d.isStopped = r.dispatcher.isStopped) :
    { r with dispatcher := d }.Sound sources seconds events answers given :=
  { h with
    ledger := hledger
    running := hrunning
    isStopped := by rw [hstopped, h.isStopped] }

theorem Sound.step (h : r.Sound sources seconds events answers given) {d : Dispatcher}
    (hstep : r.dispatcher.step? = some d) :
    { r with dispatcher := d }.Sound sources seconds events answers given := by
  obtain ⟨hledger, hopen⟩ := h.ledger.step hstep
  have hwas : r.dispatcher.isStopped = false := by
    by_contra hstopped
    have htask := Dispatcher.task_of_isStopped (Bool.not_eq_false _ ▸ hstopped)
    rw [Dispatcher.step?, htask] at hstep
    cases hstep
  exact h.proceed hledger (hledger.open_of_running hopen) (hopen.trans hwas.symm)

theorem Sound.move (h : r.Sound sources seconds events answers given) {now : Int} {i : Intake}
    (hmove : r.dispatcher.intake.Move now i) :
    (r.withIntake i).Sound sources seconds events answers given :=
  h.proceed (h.ledger.move hmove) (hmove.running h.running.1 h.running.2) rfl

theorem accept_eq_begin {connection : Nat} {o : Origin}
    (horigin : r.messages.origin? connection = some o) (body : List UInt8) :
    r.accept (some ⟨connection, o.dataSource, body⟩) = r.dispatcher.begin o body := by
  rw [accept]
  dsimp only
  rw [horigin]

theorem Sound.answer (hnodup : (sources.map (·.2.index)).Nodup)
    (h : r.Sound sources seconds events answers given) {choice : Option Nat}
    {delivery : Option Delivery} {m : MessageFanIn}
    (hanswer : r.answer? choice = some (delivery, m)) :
    ∃ more, Sound sources seconds ⟨m, r.accept delivery⟩ (events ++ [.ask choice])
      (answers ++ [delivery]) (given ++ more) := by
  rw [Relay.answer?] at hanswer
  split at hanswer
  case isFalse => cases hanswer
  case isTrue hidle =>
    have htask := Dispatcher.task_of_isIdle hidle
    have hopen : none ∉ answers := by
      rw [← h.isStopped, Dispatcher.isStopped, htask]
      exact Bool.false_ne_true
    obtain ⟨item, buffers, hbuffers, rfl, rfl⟩ := MessageFanIn.answer?_eq_some hanswer
    have hmerges := h.merges.answer hbuffers
    cases item with
    | none =>
      refine ⟨[], h.origins, by simpa using hmerges, ?_, ?_, h.running, by simp [accept,
        Dispatcher.isStopped]⟩
      · simpa [List.reduceOption_append] using h.declared
      · rw [List.append_nil]
        exact h.ledger.stopTask htask
    | some item =>
      obtain ⟨o, horigin, htag, hdeclared⟩ := MessageFanIn.tag?_eq_some hnodup h.origins
        (hmerges.tagged item (by simp [List.reduceOption_append]))
      rw [Option.bind_some, htag, accept_eq_begin horigin]
      have hledger := h.ledger.begin htask o item.2
      have hrunning := Dispatcher.isStopped_begin htask o item.2
      refine ⟨[(o, item.2)], h.origins, ?_, ?_, hledger, hledger.open_of_running hrunning, ?_⟩
      · simpa [Delivery.item] using hmerges
      · rw [List.reduceOption_append]
        exact List.rel_append h.declared (.cons hdeclared .nil)
      · simp [hrunning, hopen]

theorem Sound.apply (hnodup : (sources.map (·.2.index)).Nodup)
    (h : r.Sound sources seconds events answers given) (e : Event) :
    ∃ more, (r.apply e).Sound sources seconds (events ++ e.queue?.toList)
      (answers ++ (r.answered? e).toList) (given ++ more) := by
  cases e with
  | ask choice =>
    cases hanswer : r.answer? choice with
    | none =>
      refine ⟨[], ?_⟩
      simp only [Relay.apply, answered?, hanswer, Option.map_none, Option.toList_none,
        List.append_nil]
      exact { h with merges := h.merges.ask choice }
    | some p =>
      obtain ⟨delivery, m⟩ := p
      simp only [Relay.apply, answered?, hanswer, Option.map_some, Option.toList_some]
      exact h.answer hnodup hanswer
  | push connection body | finish connection | stop =>
    refine ⟨[], ?_⟩
    simpa [answered?, Event.queue?, Relay.apply] using h.feed rfl
  | step =>
    refine ⟨[], ?_⟩
    simp only [Relay.apply, answered?, Event.queue?, Option.toList_none, List.append_nil]
    cases hstep : r.dispatcher.step? with
    | none => exact h
    | some d => exact h.step hstep
  | work now stopFirst =>
    refine ⟨[], ?_⟩
    simp only [Relay.apply, answered?, Event.queue?, Option.toList_none, List.append_nil]
    cases hwork : r.dispatcher.intake.work? now stopFirst with
    | none => exact h
    | some i => exact h.move (Intake.move_of_work? hwork)
  | letIn =>
    refine ⟨[], ?_⟩
    simp only [Relay.apply, answered?, Event.queue?, Option.toList_none, List.append_nil]
    cases hletIn : r.dispatcher.intake.letIn? with
    | none => exact h
    | some i => exact h.move (Intake.move_of_letIn? hletIn 0)
  | flush now useTimestamp =>
    refine ⟨[], ?_⟩
    simp only [Relay.apply, answered?, Event.queue?, Option.toList_none, List.append_nil]
    exact h.proceed (h.ledger.flush now useTimestamp) h.running rfl

theorem run_concat (events : List Event) (e : Event) :
    r.run (events ++ [e]) = (r.run events).apply e := List.foldl_concat ..

theorem answers_concat (events : List Event) (e : Event) :
    r.answers (events ++ [e]) = r.answers events ++ ((r.run events).answered? e).toList :=
  outputs_concat ..

theorem Sound.run (hnodup : (sources.map (·.2.index)).Nodup)
    (h : r.Sound sources seconds events answers given) (later : List Event) :
    ∃ more, (r.run later).Sound sources seconds (events ++ later.filterMap (·.queue?))
      (answers ++ r.answers later) (given ++ more) := by
  induction later using List.reverseRecOn with
  | nil =>
    refine ⟨[], ?_⟩
    rw [show r.answers [] = [] from rfl, show r.run [] = r from rfl]
    simpa using h
  | append_singleton later e ih =>
    obtain ⟨more, hlater⟩ := ih
    obtain ⟨last, happly⟩ := hlater.apply hnodup e
    refine ⟨more ++ last, ?_⟩
    rw [run_concat, answers_concat, List.filterMap_append, ← List.append_assoc,
      ← List.append_assoc, ← List.append_assoc]
    exact happly

theorem sound_run (hnodup : (sources.map (·.2.index)).Nodup) (seconds : Nat)
    (events : List Event) : ∃ given, ((start sources seconds).run events).Sound sources seconds
      (events.filterMap (·.queue?)) ((start sources seconds).answers events) given :=
  (sound_start hnodup seconds).run hnodup events

theorem Sound.counted (h : r.Sound sources seconds events answers given) :
    ∃ done late, given = done ++ late ∧ late.length ≤ 1 ∧ (∀ g ∈ late, g.isDecodable = true) ∧
      r.dispatcher.metrics.Tallies done := by
  have hengaged := h.ledger.engaged
  have hlate : ∀ endpoint, r.dispatcher.Unfinished endpoint given →
      ∃ done late, given = done ++ late ∧ late.length ≤ 1 ∧ (∀ g ∈ late, g.isDecodable = true) ∧
        r.dispatcher.metrics.Tallies done := by
    rintro endpoint ⟨done, g, hgiven, -, hg, htallies⟩
    exact ⟨done, [g], hgiven, Nat.le_refl 1, by simpa using hg, htallies⟩
  rw [Dispatcher.Engaged] at hengaged
  split at hengaged
  · exact ⟨given, [], by simp, by simp, by simp, hengaged.2⟩
  · exact hlate _ hengaged.2
  · exact hlate _ hengaged.2
  · exact ⟨given, [], by simp, by simp, by simp, hengaged.2⟩

/-- Once everybody waits all bodies have been counted, and the cache has the samples of all of them
that could be decoded. -/
theorem Sound.rest (h : r.Sound sources seconds events answers given) {now : Int}
    (hwaits : r.dispatcher.advance? now = none) : r.dispatcher.metrics.Tallies given ∧
      r.dispatcher.intake.merged = given.flatMap (·.samples) := by
  obtain ⟨-, hintake⟩ := Option.or_eq_none_iff.mp hwaits
  obtain ⟨hwork, -⟩ := Option.or_eq_none_iff.mp (Option.map_eq_none_iff.mp hintake)
  have hqueue := (Intake.queue_eq_nil_of_work? h.running.1 hwork).1
  have hengaged := h.ledger.engaged
  rw [← h.ledger.passed_eq, Intake.passed, hqueue]
  rcases h.ledger.waits hwaits with htask | htask
  all_goals
    rw [Dispatcher.Engaged, htask] at hengaged
    rw [hengaged.1, Dispatcher.remaining, htask]
    exact ⟨hengaged.2, by simp⟩

theorem Sound.passed_of_rest (h : r.Sound sources seconds events answers given) {now : Int}
    (hwaits : r.dispatcher.advance? now = none) :
    r.dispatcher.intake.passed = given.flatMap (·.samples) := by
  have hmerged := (h.rest hwaits).2
  have hleft := h.ledger.passed_eq
  rw [Intake.passed, hmerged, List.append_assoc, List.append_assoc] at hleft
  have hnone := List.append_right_eq_self.mp hleft
  rw [← List.append_assoc, List.append_eq_nil_iff] at hnone
  rw [Intake.passed, hmerged, List.append_assoc, hnone.1, List.append_nil]

end

def Event.IsOwn (now : Int) (e : Event) : Prop := e = .step ∨ e = .work now true ∨ e = .letIn

section

variable {r : Relay} {now : Int} {events : List Event} {sources : Sources} {seconds : Nat}
  {asked : List (FanIn.Event (List UInt8))} {answers : List (Option Delivery)}
  {given : List Given}

theorem run_append (before after : List Event) :
    r.run (before ++ after) = (r.run before).run after := List.foldl_append

theorem answers_append (before after : List Event) :
    r.answers (before ++ after) = r.answers before ++ (r.run before).answers after :=
  outputs_append ..

theorem queue_of_isOwn (h : ∀ e ∈ events, e.IsOwn now) : events.filterMap (·.queue?) = [] := by
  rw [List.filterMap_eq_nil_iff]
  intro e he
  rcases h e he with rfl | rfl | rfl <;> rfl

theorem answers_of_isOwn (h : ∀ e ∈ events, e.IsOwn now) : r.answers events = [] := by
  induction events using List.reverseRecOn with
  | nil => rfl
  | append_singleton events e ih =>
    rw [answers_concat, ih fun d hd => h d (List.mem_append_left _ hd)]
    rcases h e (by simp) with rfl | rfl | rfl <;> rfl

theorem exists_run_settle (r : Relay) (now : Int) : ∃ events : List Event,
    (∀ e ∈ events, e.IsOwn now) ∧
      r.run events = { r with dispatcher := r.dispatcher.settle now } := by
  generalize hd : r.dispatcher = d
  fun_induction Dispatcher.settle d now generalizing r with
  | case1 d hwaits => exact ⟨[], by simp, by rw [← hd]; rfl⟩
  | case2 d e hadvance _ ih =>
    subst hd
    obtain ⟨events, hown, hrun⟩ := ih { r with dispatcher := e } rfl
    obtain ⟨first, hfirst, hstep⟩ :
        ∃ first : Event, first.IsOwn now ∧ r.apply first = { r with dispatcher := e } := by
      rcases Option.or_eq_some_iff.mp hadvance with hstep | ⟨-, hintake⟩
      · exact ⟨.step, .inl rfl, by rw [Relay.apply, hstep]; rfl⟩
      · obtain ⟨i, hi, rfl⟩ := Option.map_eq_some_iff.mp hintake
        rcases Option.or_eq_some_iff.mp hi with hwork | ⟨-, hletIn⟩
        · exact ⟨.work now true, .inr (.inl rfl), by rw [Relay.apply, hwork]; rfl⟩
        · exact ⟨.letIn, .inr (.inr rfl), by rw [Relay.apply, hletIn]; rfl⟩
    refine ⟨first :: events, ?_, ?_⟩
    · exact List.forall_mem_cons.mpr ⟨hfirst, hown⟩
    · rw [← hrun, ← hstep]
      rfl

theorem Sound.settle (hnodup : (sources.map (·.2.index)).Nodup)
    (h : r.Sound sources seconds asked answers given) (now : Int) :
    { r with dispatcher := r.dispatcher.settle now }.Sound sources seconds asked answers given := by
  obtain ⟨own, hown, hrun⟩ := exists_run_settle r now
  obtain ⟨more, hsettled⟩ := h.run hnodup own
  rw [queue_of_isOwn hown, answers_of_isOwn hown, List.append_nil, List.append_nil, hrun]
    at hsettled
  -- Nothing has been delivered meanwhile, so that nothing more has been given.
  have hlength := hsettled.declared.length_eq
  rw [h.declared.length_eq, List.length_append] at hlength
  rwa [List.eq_nil_of_length_eq_zero (by omega : more.length = 0), List.append_nil] at hsettled

theorem Sound.apply_ask (hnodup : (sources.map (·.2.index)).Nodup)
    (h : r.Sound sources seconds asked answers given) (hidle : r.dispatcher.isIdle = true)
    {connection : Nat} {body : List UInt8} {buffers : FanIn (List UInt8)}
    (hbuffers : r.messages.buffers.answer? (some connection) =
      some (some (connection, body), buffers)) :
    ∃ o, r.messages.origin? connection = some o ∧
      r.answered? (.ask (some connection)) = some (r.messages.tag? (connection, body)) ∧
      r.apply (.ask (some connection)) =
        ⟨{ r.messages with buffers }, r.dispatcher.begin o body⟩ := by
  obtain ⟨o, horigin, htag, -⟩ := MessageFanIn.tag?_eq_some hnodup h.origins
    ((h.merges.answer hbuffers).tagged (connection, body) (by simp [List.reduceOption_append]))
  have hanswer : r.answer? (some connection) =
      some (r.messages.tag? (connection, body), { r.messages with buffers }) := by
    rw [Relay.answer?, if_pos hidle, MessageFanIn.answer?, hbuffers]
    rfl
  refine ⟨o, horigin, by rw [answered?, hanswer]; rfl, ?_⟩
  rw [Relay.apply, hanswer, htag]
  dsimp only
  rw [accept_eq_begin horigin]

theorem Sound.exists_run_dispatchWithin (hnodup : (sources.map (·.2.index)).Nodup)
    (h : r.Sound sources seconds asked answers given) (fuel : Nat) (now : Int) :
    ∃ events : List Event, ((r.run events).messages, (r.run events).dispatcher) =
      r.messages.dispatchWithin fuel r.dispatcher now := by
  induction fuel generalizing r asked answers given with
  | zero => exact ⟨[], rfl⟩
  | succ fuel ih =>
    rw [MessageFanIn.dispatchWithin]
    split
    case isFalse => exact ⟨[], rfl⟩
    case isTrue hidle =>
      cases hnext : r.messages.buffers.next? with
      | none => exact ⟨[], rfl⟩
      | some p =>
        obtain ⟨connection, body, buffers⟩ := p
        obtain ⟨o, horigin, -, happly⟩ :=
          h.apply_ask hnodup hidle (FanIn.next?_eq_some hnext)
        obtain ⟨own, -, hown⟩ :=
          exists_run_settle ⟨{ r.messages with buffers }, r.dispatcher.begin o body⟩ now
        obtain ⟨_, hsound⟩ := h.run hnodup (.ask (some connection) :: own)
        have hrun : r.run (.ask (some connection) :: own) =
            ⟨{ r.messages with buffers }, r.dispatcher.deliver o body now⟩ :=
          (congrArg (Relay.run · own) happly).trans hown
        rw [hrun] at hsound
        obtain ⟨later, hlater⟩ := ih hsound
        refine ⟨.ask (some connection) :: own ++ later, ?_⟩
        have horigin' : MessageFanIn.origin? { r.messages with buffers } connection = some o :=
          horigin
        simp only [horigin']
        rw [run_append, hrun]
        exact hlater

end

end Relay

namespace Watch

variable {reports : List (Inlet LinkStatus)} {w : Watch}

/-- The health after reports: what the last of them says about the bus. -/
def keep (health : Health) (answers : List (Option (Nat × LinkStatus))) : Health :=
  answers.reduceOption.foldl (fun h (_, status) => { h with bus := status }) health

section

variable (health : Health) (answers : List (Option (Nat × LinkStatus)))

theorem keep_none : keep health (answers ++ [none]) = keep health answers := by
  rw [keep, List.reduceOption_append]
  exact congrArg (List.foldl _ health) (List.append_nil _)

theorem keep_some (report : Nat × LinkStatus) :
    keep health (answers ++ [some report]) = { keep health answers with bus := report.2 } := by
  rw [keep, List.reduceOption_append, List.foldl_append]
  rfl

theorem keep_eq : keep health answers =
    { health with bus := (answers.reduceOption.getLast?.map (·.2)).getD health.bus } := by
  unfold keep
  induction answers.reduceOption using List.reverseRecOn with
  | nil => rfl
  | append_singleton reports r ih => rw [List.foldl_concat, ih, List.getLast?_concat]; rfl

end

theorem run_concat (events : List (FanIn.Event LinkStatus)) (e : FanIn.Event LinkStatus) :
    w.run (events ++ [e]) = (w.run events).apply e := List.foldl_concat ..

theorem answers_concat (events : List (FanIn.Event LinkStatus)) (e : FanIn.Event LinkStatus) :
    w.answers (events ++ [e]) = w.answers events ++ ((w.run events).answered? e).toList :=
  outputs_concat ..

structure Sound (reports : List (Inlet LinkStatus)) (health : Health) (w : Watch)
    (events : List (FanIn.Event LinkStatus)) (answers : List (Option (Nat × LinkStatus))) :
    Prop where
  merges : FanIn.Merges reports w.reports events answers
  health_eq : w.health = keep health answers
  stopped : w.stopped = true ↔ none ∈ answers

theorem Sound.apply {health : Health} {events : List (FanIn.Event LinkStatus)}
    {answers : List (Option (Nat × LinkStatus))} (h : w.Sound reports health events answers)
    (e : FanIn.Event LinkStatus) : (w.apply e).Sound reports health (events ++ [e])
      (answers ++ (w.answered? e).toList) := by
  cases e with
  | ask choice =>
    simp only [Watch.apply, answered?]
    cases hanswer : w.answer? choice with
    | none =>
      rw [Option.map_none, Option.toList_none, List.append_nil]
      exact { h with merges := h.merges.ask choice }
    | some p =>
      obtain ⟨report, g⟩ := p
      rw [Watch.answer?] at hanswer
      split at hanswer
      case isTrue => cases hanswer
      case isFalse hopen =>
        have hmerges := h.merges.answer hanswer
        rw [Option.map_some, Option.toList_some]
        cases report with
        | none => exact ⟨hmerges, by rw [keep_none, ← h.health_eq]; rfl, by simp [accept]⟩
        | some report =>
          refine ⟨hmerges, by rw [keep_some, ← h.health_eq]; rfl, ?_⟩
          simpa [accept] using h.stopped
  | push index status | finish index | stop =>
    simp only [Watch.apply, answered?, Option.toList_none, List.append_nil]
    refine { h with merges := ?_ }
    dsimp only
    exact h.merges.apply rfl

theorem sound_run (hnodup : (reports.map (·.index)).Nodup) (health : Health)
    (events : List (FanIn.Event LinkStatus)) :
    let w : Watch := { reports := .ofList reports, health }
    (w.run events).Sound reports health events (w.answers events) := by
  intro w
  induction events using List.reverseRecOn with
  | nil => exact ⟨FanIn.merges_ofList hnodup, rfl, by simp [run, answers, outputs, w]⟩
  | append_singleton events e ih =>
    rw [run_concat, answers_concat]
    exact ih.apply e

theorem exists_run_takeUpTo (n : Nat) (hw : w.stopped = false) :
    ∃ events : List (FanIn.Event LinkStatus),
      (w.run events).reports = (FanIn.takeUpTo n w.reports).2 ∧
      (w.run events).health = keep w.health ((FanIn.takeUpTo n w.reports).1.map some) := by
  induction n generalizing w with
  | zero => exact ⟨[], rfl, rfl⟩
  | succ n ih =>
    cases hnext : w.reports.next? with
    | none =>
      refine ⟨[], ?_, ?_⟩
      · simp [FanIn.takeUpTo, hnext, run]
      · simp [FanIn.takeUpTo, hnext, run, keep]
    | some p =>
      obtain ⟨k, status, g⟩ := p
      have happly : w.apply (.ask (some k)) =
          { w with reports := g, health := { w.health with bus := status } } := by
        rw [Watch.apply, answer?, hw, FanIn.next?_eq_some hnext]
        rfl
      have hopen : (w.apply (.ask (some k))).stopped = false := by rw [happly, hw]
      obtain ⟨events, hreports, hhealth⟩ := ih hopen
      refine ⟨.ask (some k) :: events, hreports.trans ?_, hhealth.trans ?_⟩
      · simp only [happly, FanIn.takeUpTo, hnext]
      · simp only [happly, FanIn.takeUpTo, hnext]
        rfl

theorem exists_run_follow (w : Watch) (hw : w.stopped = false) :
    ∃ events : List (FanIn.Event LinkStatus),
      ((w.run events).health, (w.run events).reports) = w.health.follow w.reports := by
  obtain ⟨events, hreports, hhealth⟩ := exists_run_takeUpTo w.reports.pending hw
  refine ⟨events, ?_⟩
  rw [hreports, hhealth, Health.follow, keep, List.reduceOption, List.filterMap_map]
  simp

end Watch

/-- The readers see a merge of their sources: of each source a prefix of what has been put in, in
order and tagged as the source was declared, and the end only after a stop or after everything. A
relay counts each body once, as processed or as dropped, at the endpoint of its connection, and
passes on the samples of those that can be decoded, in order and nothing else; one body at most is
still being worked on, and it is done when everybody waits. A watch keeps the last status. -/
theorem readers_merge {sources : Sources} (hsources : (sources.map (·.2.index)).Nodup)
    {reports : List (Inlet LinkStatus)} (hreports : (reports.map (·.index)).Nodup)
    (seconds : Nat) (health : Health) :
    (∀ events, let answers := (MessageFanIn.ofList sources).answers events
      FanIn.IsMerge (sources.map (·.2)) events (answers.map (·.map Delivery.item)) ∧
      ∀ d ∈ answers.reduceOption, ∃ g, sources.Declare d g) ∧
    (∀ events, let r := (Relay.start sources seconds).run events
      let answers := (Relay.start sources seconds).answers events
      FanIn.IsMerge (sources.map (·.2)) (events.filterMap (·.queue?))
        (answers.map (·.map Delivery.item)) ∧
      (r.dispatcher.isStopped = true ↔ none ∈ answers) ∧
      ∃ given, List.Forall₂ sources.Declare answers.reduceOption given ∧
        (∃ done late, given = done ++ late ∧ late.length ≤ 1 ∧
          (∀ g ∈ late, g.isDecodable = true) ∧ r.dispatcher.metrics.Tallies done) ∧
        r.dispatcher.intake.passed ++ r.dispatcher.remaining = given.flatMap (·.samples) ∧
        r.dispatcher.intake.Fills seconds ∧
        ∀ now, let d := r.dispatcher.settle now
          d.metrics.Tallies given ∧ d.intake.merged = given.flatMap (·.samples) ∧
          d.intake.Fills seconds) ∧
    ∀ events, let w : Watch := { reports := .ofList reports, health }
      FanIn.IsMerge reports events (w.answers events) ∧
      (w.run events).health = { health with
        bus := ((w.answers events).reduceOption.getLast?.map (·.2)).getD health.bus } := by
  refine ⟨fun events => ?_, fun events => ?_, fun events => ?_⟩
  · obtain ⟨hitems, hdeclared⟩ := MessageFanIn.items_answers hsources events
    refine ⟨?_, hdeclared⟩
    rw [hitems]
    exact (FanIn.merges_run (by rwa [List.map_map]) events).isMerge
  · obtain ⟨given, h⟩ := Relay.sound_run hsources seconds events
    refine ⟨h.merges.isMerge, h.isStopped, given, h.declared, h.counted, h.ledger.passed_eq,
      h.ledger.fills, fun now => ?_⟩
    have hsettled := h.settle hsources now
    obtain ⟨htallies, hmerged⟩ := hsettled.rest (Dispatcher.advance?_settle _ now)
    exact ⟨htallies, hmerged, hsettled.ledger.fills⟩
  · have h := Watch.sound_run hreports health events
    exact ⟨h.merges.isMerge, h.health_eq.trans (Watch.keep_eq _ _)⟩

/-- A stop comes between the two bodies of a connection; the second is given all the same. -/
theorem readers_merge_of_stop :
    let sources : Sources :=
      [(⟨"a", .collectd⟩, ⟨3, [[255]], false⟩), (⟨"b", .ceilometer⟩, ⟨5, [], true⟩)]
    let reports : List (Inlet LinkStatus) := [⟨0, [.up], false⟩, ⟨1, [.down], false⟩]
    let events : List Relay.Event := [.push 3 [254], .ask (some 3), .stop, .ask (some 3), .ask none]
    let w : Watch := { reports := .ofList reports }
    (sources.map (·.2.index)).Nodup ∧ (reports.map (·.index)).Nodup ∧
      (Relay.start sources 300).answers events =
        [some ⟨3, .collectd, [255]⟩, some ⟨3, .collectd, [254]⟩, none] ∧
      ((Relay.start sources 300).run events).dispatcher.isStopped = true ∧
      (w.run [.ask (some 1), .ask (some 0), .finish 1, .ask none]).health = { bus := .up } := by
  intro sources reports events w
  have hsources : (sources.map (·.2.index)).Nodup := by decide
  have hreports : (reports.map (·.index)).Nodup := by decide
  have h := readers_merge hsources hreports 300 {}
  have hanswers : (Relay.start sources 300).answers events =
      [some ⟨3, .collectd, [255]⟩, some ⟨3, .collectd, [254]⟩, none] := rfl
  refine ⟨hsources, hreports, hanswers, (h.2.1 events).2.1.mpr ?_, ?_⟩
  · rw [hanswers]
    simp
  · exact (h.2.2 [.ask (some 1), .ask (some 0), .finish 1, .ask none]).2

end ScrapeBridge
