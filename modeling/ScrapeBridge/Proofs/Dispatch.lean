import ScrapeBridge.Dispatch
import ScrapeBridge.Proofs.Cache.Tickets
import ScrapeBridge.Proofs.Counters

namespace ScrapeBridge

abbrev Given := Origin × List UInt8

namespace Given

def samples (g : Given) : List Sample := (decodeMessage g.1.dataSource g.2).toOption.getD []

def isDecodable (g : Given) : Bool := (decodeMessage g.1.dataSource g.2).toOption.isSome

def isFor (label : String) (g : Given) : Bool :=
  Text.fingerprint g.1.endpoint = Text.fingerprint label

end Given

namespace SelfMetrics

/-- The counters show how many bodies have been decoded and how many not. -/
structure Tallies (m : SelfMetrics) (given : List Given) : Prop where
  processed : ∀ label, m.processed.read label =
    Counters.tally (given.countP fun g => g.isFor label && g.isDecodable)
  dropped : ∀ label, m.dropped.read label =
    Counters.tally (given.countP fun g => g.isFor label && !g.isDecodable)
  received : ∀ label, m.received.read label = Counters.tally 0

section

variable {m : SelfMetrics} {given : List Given}

theorem Tallies.drop (h : m.Tallies given) {g : Given} (hg : g.isDecodable = false) :
    { m with dropped := m.dropped.add g.1.endpoint 1 }.Tallies (given ++ [g]) where
  processed := by
    intro label
    rw [h.processed, List.countP_append]
    simp [hg]
  dropped := by
    intro label
    rw [Counters.read_add, h.dropped, List.countP_append]
    by_cases hlabel : Text.fingerprint g.1.endpoint = Text.fingerprint label
    · rw [if_pos hlabel]
      simp only [Given.isFor, hlabel, hg, List.countP_cons, List.countP_nil]
      rfl
    · rw [if_neg hlabel]
      simp [Given.isFor, hlabel]
  received := h.received

theorem Tallies.process (h : m.Tallies given) {g : Given} (hg : g.isDecodable = true) :
    { m with processed := m.processed.add g.1.endpoint 1 }.Tallies (given ++ [g]) where
  processed := by
    intro label
    rw [Counters.read_add, h.processed, List.countP_append]
    by_cases hlabel : Text.fingerprint g.1.endpoint = Text.fingerprint label
    · rw [if_pos hlabel]
      simp only [Given.isFor, hlabel, hg, List.countP_cons, List.countP_nil]
      rfl
    · rw [if_neg hlabel]
      simp [Given.isFor, hlabel]
  dropped := by
    intro label
    rw [h.dropped, List.countP_append]
    simp [hg]
  received := h.received

theorem Tallies.observe (h : m.Tallies given) (interval : Float) :
    (m.observeInterval interval).Tallies given := by
  unfold observeInterval
  split
  · exact h
  · split
    · exact ⟨h.processed, h.dropped, h.received⟩
    · exact h

/-- Bodies are counted alike, in whatever order they have been given. -/
theorem Tallies.read_eq {m' : SelfMetrics} {given' : List Given} (h : m.Tallies given)
    (h' : m'.Tallies given') (hperm : given.Perm given') (endpoint : String) :
    m.processed.read endpoint = m'.processed.read endpoint ∧
      m.dropped.read endpoint = m'.dropped.read endpoint := by
  rw [h.processed, h'.processed, h.dropped, h'.dropped, hperm.countP_eq, hperm.countP_eq]
  exact ⟨rfl, rfl⟩

end

end SelfMetrics

namespace Dispatcher

def remaining (d : Dispatcher) : List Sample :=
  match d.task with
  | .putting _ samples => samples
  | .blocked _ _ samples => samples
  | _ => []

def Unfinished (d : Dispatcher) (endpoint : String) (given : List Given) : Prop :=
  ∃ done g, given = done ++ [g] ∧ g.1.endpoint = endpoint ∧ g.isDecodable = true ∧
    d.metrics.Tallies done

/-- What the dispatcher is doing fits what it has been given. -/
def Engaged (d : Dispatcher) (given : List Given) : Prop :=
  match d.task with
  | .idle => d.intake.waiting = [] ∧ d.metrics.Tallies given
  | .putting endpoint _ => d.intake.waiting = [] ∧ d.Unfinished endpoint given
  | .blocked ticket endpoint _ => d.intake.Awaits ticket ∧ d.Unfinished endpoint given
  | .stopped => d.intake.waiting = [] ∧ d.metrics.Tallies given

/-- What has become of the bodies that a dispatcher has been given. Until it stops nobody closes the
intake, so that no sample is refused. -/
structure Ledger (d : Dispatcher) (seconds : Nat) (given : List Given) : Prop where
  passed_eq : d.intake.passed ++ d.remaining = given.flatMap (·.samples)
  engaged : d.Engaged given
  open_of_running : d.isStopped = false → d.intake.worker = .running ∧ d.intake.stopping = false
  emptied : d.intake.worker = .stopped → d.intake.queue = []
  started : d.intake.worker ≠ .absent
  numbered : d.intake.Numbered
  fills : d.intake.Fills seconds

section

variable {d e : Dispatcher} {seconds : Nat} {given : List Given}

theorem task_of_isIdle (h : d.isIdle = true) : d.task = .idle := by
  unfold isIdle at h
  split at h
  case h_1 htask => exact htask
  case h_2 => cases h

theorem task_of_isStopped (h : d.isStopped = true) : d.task = .stopped := by
  unfold isStopped at h
  split at h
  case h_1 htask => exact htask
  case h_2 => cases h

theorem Ledger.isClosed_eq (h : d.Ledger seconds given) (hd : d.isStopped = false) :
    d.intake.isClosed = false := by
  simp [Intake.isClosed, (h.open_of_running hd).1]

theorem Ledger.waiting_of_stopped (h : d.Ledger seconds given) (hd : d.isStopped = true) :
    d.intake.waiting = [] := by
  have hengaged := h.engaged
  rw [Engaged, task_of_isStopped hd] at hengaged
  exact hengaged.1

theorem Ledger.isStopped_of_stopping (h : d.Ledger seconds given)
    (hstopping : d.intake.stopping = true) : d.isStopped = true := by
  by_contra hd
  have hopen := h.open_of_running (Bool.eq_false_iff.mpr hd)
  rw [hstopping] at hopen
  cases hopen.2

theorem Ledger.isStopped_of_worker (h : d.Ledger seconds given)
    (hworker : d.intake.worker = .stopped) : d.isStopped = true := by
  by_contra hd
  have hopen := h.open_of_running (Bool.eq_false_iff.mpr hd)
  rw [hworker] at hopen
  cases hopen.1

theorem ledger_start (seconds : Nat) :
    Ledger { intake := { Intake.create seconds with worker := .running } } seconds [] where
  passed_eq := rfl
  engaged := ⟨rfl, fun _ => rfl, fun _ => rfl, fun _ => rfl⟩
  open_of_running := fun _ => ⟨rfl, rfl⟩
  emptied := by intro h; cases h
  started := by intro h; cases h
  numbered := (Intake.numbered_create seconds).of_perm (.refl _) rfl (fun w hw => by cases hw)
  fills := Intake.fills_create seconds

theorem Ledger.register (h : d.Ledger seconds given) (hidle : d.task = .idle) (o : Origin) :
    (d.register o).Ledger seconds given := by
  have hengaged := h.engaged
  rw [Engaged, hidle] at hengaged
  obtain ⟨hwaiting, htallies⟩ := hengaged
  refine ⟨h.passed_eq, ?_, h.open_of_running, h.emptied, h.started, h.numbered, h.fills⟩
  rw [Engaged, Dispatcher.register, hidle]
  refine ⟨hwaiting, ?_, ?_, htallies.received⟩
  · intro label
    rw [← htallies.processed, Counters.read_touch]
  · intro label
    rw [← htallies.dropped, Counters.read_touch]

theorem Ledger.registerAll (h : d.Ledger seconds given) (hidle : d.task = .idle)
    (origins : List Origin) :
    (origins.foldl Dispatcher.register d).Ledger seconds given ∧
      (origins.foldl Dispatcher.register d).task = .idle := by
  induction origins generalizing d with
  | nil => exact ⟨h, hidle⟩
  | cons o origins ih => exact ih (h.register hidle o) hidle

theorem Ledger.begin (h : d.Ledger seconds given) (hidle : d.task = .idle) (o : Origin)
    (body : List UInt8) : (d.begin o body).Ledger seconds (given ++ [(o, body)]) := by
  obtain ⟨hwaiting, htallies⟩ : d.intake.waiting = [] ∧ d.metrics.Tallies given := by
    have hengaged := h.engaged
    rwa [Engaged, hidle] at hengaged
  have hopen := h.open_of_running (by rw [isStopped, hidle])
  have hpassed : d.intake.passed = given.flatMap (·.samples) := by
    rw [← h.passed_eq, remaining, hidle, List.append_nil]
  have hmore : (given ++ [(o, body)]).flatMap (·.samples) =
      d.intake.passed ++ Given.samples (o, body) := by
    rw [List.flatMap_append, List.flatMap_singleton, hpassed]
  cases hdecode : decodeMessage o.dataSource body with
  | ok samples =>
    have hsamples : Given.samples (o, body) = samples := by rw [Given.samples, hdecode]; rfl
    have hg : Given.isDecodable (o, body) = true := by rw [Given.isDecodable, hdecode]; rfl
    have hbegin : d.begin o body = { d with task := .putting o.endpoint samples } := by
      rw [Dispatcher.begin, hdecode]
    rw [hbegin]
    refine ⟨?_, ⟨hwaiting, given, (o, body), rfl, rfl, hg, htallies⟩, fun _ => hopen, h.emptied,
      h.started, h.numbered, h.fills⟩
    rw [hmore, hsamples]
    rfl
  | error fault =>
    have hsamples : Given.samples (o, body) = [] := by rw [Given.samples, hdecode]; rfl
    have hg : Given.isDecodable (o, body) = false := by rw [Given.isDecodable, hdecode]; rfl
    have hbegin : d.begin o body = { d with
        metrics := { d.metrics with dropped := d.metrics.dropped.add o.endpoint 1 } } := by
      rw [Dispatcher.begin, hdecode]
    rw [hbegin]
    refine ⟨?_, ?_, fun _ => hopen, h.emptied, h.started, h.numbered, h.fills⟩
    · rw [hmore, hsamples, remaining, hidle]
    · rw [Engaged, hidle]
      have hdropped := htallies.drop (g := (o, body)) hg
      exact ⟨hwaiting, hdropped⟩

theorem Ledger.put (h : d.Ledger seconds given) {endpoint : String} {s : Sample}
    {samples : List Sample} (htask : d.task = .putting endpoint (s :: samples)) :
    { d with
      task := .blocked d.intake.tickets endpoint samples
      metrics := d.metrics.observeInterval s.interval
      intake := d.intake.put s }.Ledger seconds given := by
  have hd : d.isStopped = false := by rw [isStopped, htask]
  have hopen := h.isClosed_eq hd
  have hput := d.intake.put_cases s
  obtain ⟨hwaiting, done, g, hgiven, hendpoint, hg, htallies⟩ :
      d.intake.waiting = [] ∧ d.Unfinished endpoint given := by
    have hengaged := h.engaged
    rwa [Engaged, htask] at hengaged
  have hrunning := h.open_of_running hd
  refine ⟨?_, ⟨hput.awaits hopen hwaiting, done, g, hgiven, hendpoint, hg, htallies.observe _⟩,
    ?_, ?_, ?_, h.numbered.put hput, h.fills.put hput⟩
  · rw [← h.passed_eq, hput.passed_eq hopen, remaining, remaining, htask, List.append_assoc]
    rfl
  · intro _
    exact ⟨hput.worker_eq.trans hrunning.1, hput.stopping_eq.trans hrunning.2⟩
  · intro hworker
    rw [hput.worker_eq, hrunning.1] at hworker
    cases hworker
  · rw [hput.worker_eq]
    exact h.started

theorem Ledger.step (h : d.Ledger seconds given) (hstep : d.step? = some e) :
    e.Ledger seconds given ∧ e.isStopped = false := by
  unfold step? at hstep
  have hengaged := h.engaged
  split at hstep
  case h_1 endpoint s samples htask =>
    cases hstep
    exact ⟨h.put htask, rfl⟩
  case h_2 endpoint htask =>
    cases hstep
    rw [Engaged, htask] at hengaged
    obtain ⟨hwaiting, done, g, rfl, rfl, hg, htallies⟩ := hengaged
    have hopen := h.open_of_running (by rw [isStopped, htask])
    refine ⟨⟨?_, ⟨hwaiting, htallies.process hg⟩, fun _ => hopen, h.emptied, h.started,
      h.numbered, h.fills⟩, rfl⟩
    rw [← h.passed_eq, remaining, remaining, htask]
  case h_3 ticket endpoint samples htask =>
    rw [Engaged, htask] at hengaged
    obtain ⟨hawaits, hunfinished⟩ := hengaged
    have hopen := h.open_of_running (by rw [isStopped, htask])
    split at hstep <;> cases hstep
    case h_1 hanswer =>
      obtain ⟨-, hwaiting⟩ := hawaits.of_answer? h.numbered hanswer
      refine ⟨⟨?_, ⟨hwaiting, hunfinished⟩, fun _ => hopen, h.emptied, h.started, h.numbered,
        h.fills⟩, rfl⟩
      rw [← h.passed_eq, remaining, remaining, htask]
    case h_2 hanswer =>
      obtain ⟨hfalse, -⟩ := hawaits.of_answer? h.numbered hanswer
      cases hfalse
  all_goals cases hstep

theorem Ledger.move (h : d.Ledger seconds given) {now : Int} {i : Intake}
    (hmove : d.intake.Move now i) : { d with intake := i }.Ledger seconds given where
  passed_eq := by
    rw [← h.passed_eq]
    congr 1
    exact hmove.passed_eq fun hs => h.waiting_of_stopped (h.isStopped_of_stopping hs)
  engaged := by
    have hengaged := h.engaged
    unfold Engaged at hengaged ⊢
    cases htask : d.task with
    | idle =>
      rw [htask] at hengaged
      exact ⟨hmove.waiting_eq_nil hengaged.1, hengaged.2⟩
    | putting endpoint samples =>
      rw [htask] at hengaged
      exact ⟨hmove.waiting_eq_nil hengaged.1, hengaged.2⟩
    | stopped =>
      rw [htask] at hengaged
      exact ⟨hmove.waiting_eq_nil hengaged.1, hengaged.2⟩
    | blocked ticket endpoint samples =>
      rw [htask] at hengaged
      have hopen := h.open_of_running (by rw [isStopped, htask])
      exact ⟨hengaged.1.move h.numbered hopen.2 hmove, hengaged.2⟩
  open_of_running := by
    intro hd
    obtain ⟨hworker, hstopping⟩ := h.open_of_running hd
    exact hmove.running hworker hstopping
  emptied := hmove.emptied fun hworker => h.waiting_of_stopped (h.isStopped_of_worker hworker)
  started := hmove.worker_ne_absent h.started
  numbered := h.numbered.move hmove
  fills := h.fills.move hmove

theorem Ledger.stopTask (h : d.Ledger seconds given) (hidle : d.task = .idle) :
    { d with task := .stopped }.Ledger seconds given := by
  have hengaged := h.engaged
  rw [Engaged, hidle] at hengaged
  refine ⟨?_, hengaged, (fun hd => by cases hd), h.emptied, h.started, h.numbered, h.fills⟩
  rw [← h.passed_eq, remaining, remaining, hidle]

theorem Ledger.stopIntake (h : d.Ledger seconds given) (hd : d.isStopped = true) :
    { d with intake := d.intake.stop }.Ledger seconds given where
  passed_eq := h.passed_eq
  engaged := h.engaged
  open_of_running := by
    intro hrunning
    rw [show d.isStopped = false from hrunning] at hd
    cases hd
  emptied := h.emptied
  started := h.started
  numbered := h.numbered.of_perm (.refl _) rfl h.numbered.carried
  fills := h.fills

theorem Ledger.flush (h : d.Ledger seconds given) (now : Int) (useTimestamp : Bool) :
    { d with intake := { d.intake with cache := (d.intake.cache.flush now useTimestamp).1 } }.Ledger
      seconds given where
  passed_eq := h.passed_eq
  engaged := h.engaged
  open_of_running := h.open_of_running
  emptied := h.emptied
  started := h.started
  numbered := h.numbered.of_perm (.refl _) rfl h.numbered.carried
  fills := h.fills.flush useTimestamp

theorem advance?_eq_some {now : Int} (hadvance : d.advance? now = some e) :
    d.step? = some e ∨ ∃ i, d.intake.Move now i ∧ e = { d with intake := i } := by
  rcases Option.or_eq_some_iff.mp hadvance with hstep | ⟨-, hintake⟩
  · exact .inl hstep
  · obtain ⟨i, hi, rfl⟩ := Option.map_eq_some_iff.mp hintake
    rcases Option.or_eq_some_iff.mp hi with hwork | ⟨-, hletIn⟩
    · exact .inr ⟨i, Intake.move_of_work? hwork, rfl⟩
    · exact .inr ⟨i, Intake.move_of_letIn? hletIn now, rfl⟩

/-- The dispatcher waits for nothing but messages: while it waits for a put to be answered somebody
else can go on. -/
theorem Ledger.waits (h : d.Ledger seconds given) {now : Int} (hwaits : d.advance? now = none) :
    d.task = .idle ∨ d.task = .stopped := by
  obtain ⟨hstep, hintake⟩ := Option.or_eq_none_iff.mp hwaits
  obtain ⟨hwork, hletIn⟩ := Option.or_eq_none_iff.mp (Option.map_eq_none_iff.mp hintake)
  cases htask : d.task with
  | idle => exact .inl rfl
  | stopped => exact .inr rfl
  | putting endpoint samples => cases samples <;> simp [step?, htask] at hstep
  | blocked ticket endpoint samples =>
    have hengaged := h.engaged
    rw [Engaged, htask] at hengaged
    have hopen := h.open_of_running (by rw [isStopped, htask])
    obtain ⟨hqueue, -⟩ := Intake.queue_eq_nil_of_work? hopen.1 hwork
    rcases hengaged.1 with ⟨-, s, hs⟩ | ⟨b, hwaiting⟩
    · simp [step?, htask, h.numbered.answer?_accepted hs] at hstep
    · simp [Intake.letIn?, hwaiting, hqueue, Intake.capacity] at hletIn

theorem advance?_settle (d : Dispatcher) (now : Int) : (d.settle now).advance? now = none := by
  fun_induction settle d now with
  | case1 d hwaits => exact hwaits
  | case2 d e hadvance _ ih => exact ih

theorem worker_settle (now : Int) (htask : d.task = .stopped) (hstarted : d.intake.worker ≠ .absent)
    (hstopping : d.intake.stopping = true) : (d.settle now).intake.worker = .stopped := by
  fun_induction settle d now with
  | case1 d hwaits =>
    obtain ⟨-, hintake⟩ := Option.or_eq_none_iff.mp hwaits
    obtain ⟨hwork, -⟩ := Option.or_eq_none_iff.mp (Option.map_eq_none_iff.mp hintake)
    exact Intake.worker_of_stopping hstarted hstopping hwork
  | case2 d e hadvance _ ih =>
    rcases advance?_eq_some hadvance with hstep | ⟨i, hmove, rfl⟩
    · rw [step?, htask] at hstep
      cases hstep
    · exact ih htask (hmove.worker_ne_absent hstarted) (hmove.stopping_eq.trans hstopping)

/-- Once the worker has stopped, all samples of what the dispatcher has been given have been merged,
and all bodies have been counted. -/
theorem Ledger.merged_of_stopped (h : d.Ledger seconds given)
    (hworker : d.intake.worker = .stopped) :
    d.intake.merged = given.flatMap (·.samples) ∧ d.metrics.Tallies given := by
  have htask := task_of_isStopped (h.isStopped_of_worker hworker)
  have hengaged := h.engaged
  rw [Engaged, htask] at hengaged
  refine ⟨?_, hengaged.2⟩
  rw [← h.passed_eq, remaining, htask, Intake.passed, h.emptied hworker, hengaged.1]
  simp

end

end Dispatcher

end ScrapeBridge
