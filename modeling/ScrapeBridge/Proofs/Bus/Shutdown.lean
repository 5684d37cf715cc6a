import ScrapeBridge.Bus.Handle
import ScrapeBridge.Proofs.Bus.Quota

namespace ScrapeBridge.Connection

/-- The task has nothing to do until something happens. -/
def Waits (c : Connection) : Prop := ∀ stopFirst, c.step? stopFirst = none

/-- What a task can wait for: its link, room in the buffer, a point in time, or the answer to a
dial. -/
def Awaits (c : Connection) : Prop :=
  match c.phase with
  | .receiving => c.feed = [] ∧ c.atLimit = false
  | .pushing _ => c.consumerGone = false ∧ c.capacity ≤ c.buffer.length
  | .backingOff deadline => c.now < deadline
  | .redialing => False
  | .hanging => True
  | .ended => True

def Event.isOfShutdown : Event → Bool
  | stop => true
  | step _ => true
  | _ => false

def afterRead (c : Connection) (n : Nat) : Connection :=
  { c with buffer := c.buffer.drop n, consumed := c.consumed ++ c.buffer.take n }

/-- What a stop makes of a connection whose task waits. -/
structure ShutDown (c d : Connection) : Prop where
  ended : d.phase = .ended
  stopping : d.stopping = true
  state_eq : d.state = .closed
  linkCloses_eq : d.linkCloses = c.linkCloses + if c.state = .closed then 0 else 1
  dials_eq : d.dials = c.dials
  reports_eq : d.reports = c.reports
  taken_eq : d.taken = c.taken
  feed_eq : d.feed = c.feed
  received_eq : d.received = c.received
  reconnects_eq : d.reconnects = c.reconnects
  now_eq : d.now = c.now
  signal_eq : d.signal = if c.signal = .pending then .dropped else c.signal
  consumed_eq : d.consumed = c.consumed
  buffer_eq : d.buffer = c.buffer
  readable : ∀ n, d.receiveUpTo n =
    (c.buffer.take n, if n ≤ c.buffer.length then .full else .disconnected, d.afterRead n)

section

variable {c d : Connection}

theorem Awaits.proceed? (h : c.Awaits) : c.proceed? = none := by
  unfold Awaits at h
  unfold Connection.proceed?
  cases hphase : c.phase <;> rw [hphase] at h
  case receiving => simp only [h.1]
  case pushing body => simp [h.1, Nat.not_lt.mpr h.2]
  case backingOff deadline => simp only [if_neg (Nat.not_le.mpr h)]
  case redialing => cases h

theorem Awaits.step? (h : c.Awaits) (hphase : c.phase ≠ .ended) (stopFirst : Bool) :
    c.step? stopFirst = if c.stopping then some (c.finish false) else none := by
  have hlimit : ¬ (c.phase = .receiving ∧ c.atLimit = true) := by
    rintro ⟨hreceiving, hlimit⟩
    unfold Awaits at h
    rw [hreceiving] at h
    rw [h.2] at hlimit
    cases hlimit
  rw [Connection.step?, if_neg hphase, if_neg hlimit, h.proceed?]
  cases c.stopping <;> cases stopFirst <;> rfl

theorem waits_of_ended (h : c.phase = .ended) : c.Waits := step?_of_ended h

theorem proceed?_of_waits (h : c.Waits) (hphase : c.phase ≠ .ended) :
    ¬ (c.phase = .receiving ∧ c.atLimit = true) ∧ c.proceed? = none := by
  have hwaits := h true
  have hstopping : ¬ c.stopping = true := fun hs => hphase (ended_of_stopping hs hwaits)
  rw [Connection.step?, if_neg hphase, if_neg hstopping] at hwaits
  split at hwaits
  · cases hwaits
  · exact ⟨‹_›, hwaits⟩

theorem Waits.awaits (h : c.Waits) : c.Awaits := by
  by_cases hended : c.phase = .ended
  · rw [Awaits, hended]
    trivial
  · obtain ⟨hlimit, hproceed⟩ := proceed?_of_waits h hended
    unfold Connection.proceed? at hproceed
    unfold Awaits
    cases hphase : c.phase <;> rw [hphase] at hproceed hlimit
    case receiving =>
      have hmore : c.atLimit = false := Bool.eq_false_iff.mpr fun hl => hlimit ⟨rfl, hl⟩
      cases hfeed : c.feed with
      | nil => exact ⟨rfl, hmore⟩
      | cons a feed => simp [hfeed] at hproceed
    case pushing body => grind
    case backingOff deadline => grind
    case redialing => cases hproceed
    case hanging => trivial
    case ended => trivial

/-- A task waits if what it waits for is not there, and it has ended if it has been told to. -/
theorem waits_iff : c.Waits ↔ c.Awaits ∧ (c.stopping = true → c.phase = .ended) := by
  constructor
  · intro h
    exact ⟨h.awaits, fun hstopping => ended_of_stopping hstopping (h true)⟩
  · rintro ⟨hawaits, hstopped⟩
    by_cases hphase : c.phase = .ended
    · exact waits_of_ended hphase
    · intro stopFirst
      rw [hawaits.step? hphase, if_neg (mt hstopped hphase)]

theorem settle_of_waits (h : c.Waits) : c.settle = c := by
  rw [settle]
  split
  · rfl
  case h_2 d hstep =>
    rw [h true] at hstep
    cases hstep

theorem settle_of_step? (h : c.step? true = some d) : c.settle = d.settle := by
  rw [settle]
  split
  case h_1 hstep =>
    rw [h] at hstep
    cases hstep
  case h_2 e hstep =>
    rw [h] at hstep
    cases hstep
    rfl

theorem receiveUpTo_of_ended (h : c.phase = .ended) (n : Nat) : c.receiveUpTo n =
    (c.buffer.take n, if n ≤ c.buffer.length then .full else .disconnected, c.afterRead n) := by
  induction n generalizing c with
  | zero => simp [receiveUpTo, afterRead]
  | succ n ih =>
    cases hbuffer : c.buffer with
    | nil =>
      have hread : c.afterRead (n + 1) = c := by
        rw [afterRead, hbuffer, List.drop_nil, List.take_nil, List.append_nil, ← hbuffer]
      simp [receiveUpTo, receive?, hbuffer, streamEnd, hasEnded, h, hread]
    | cons body buffer =>
      let d : Connection := { c with buffer, consumed := c.consumed ++ [body] }
      have hnext : c.receive? = some (body, d) := by rw [receive?, hbuffer]
      have hread : c.afterRead (n + 1) = d.afterRead n := by
        simp [afterRead, hbuffer, d]
      have hsettled : d.settle = d := settle_of_waits (waits_of_ended h)
      simp only [receiveUpTo, hnext, hsettled, ih (c := d) h, hread]
      simp [d]

theorem Waits.step?_stop (h : c.Waits) (hphase : c.phase ≠ .ended) (stopFirst : Bool) :
    (c.apply .stop).step? stopFirst = some ((c.apply .stop).finish false) :=
  Awaits.step? (c := c.apply .stop) h.awaits hphase stopFirst

theorem Waits.settle_stop (h : c.Waits) (hphase : c.phase ≠ .ended) :
    (c.apply .stop).settle = (c.apply .stop).finish false := by
  rw [settle_of_step? (h.step?_stop hphase true)]
  exact settle_of_waits (waits_of_ended rfl)

theorem settle_stop_of_ended (h : c.phase = .ended) : (c.apply .stop).settle = c.apply .stop :=
  settle_of_waits (waits_of_ended h)

theorem shutDown_of_ended (h : c.phase = .ended) (hclosed : c.state = .closed) :
    c.ShutDown (c.apply .stop) where
  ended := h
  stopping := rfl
  state_eq := hclosed
  linkCloses_eq := by rw [if_pos hclosed]; rfl
  dials_eq := rfl
  reports_eq := rfl
  taken_eq := rfl
  feed_eq := rfl
  received_eq := rfl
  reconnects_eq := rfl
  now_eq := rfl
  signal_eq := by
    have hsignal : c.signal ≠ .pending := by
      unfold signal hasEnded
      rw [h]
      cases c.isFinished <;> simp
    rw [if_neg hsignal]
    rfl
  consumed_eq := rfl
  buffer_eq := rfl
  readable := receiveUpTo_of_ended (c := c.apply .stop) h

theorem acts_finish_stop (c : Connection) :
    ((c.apply .stop).finish false).acts = c.acts ++ [.closedLink, .entered .closed] :=
  acts_finish (c.apply .stop) false

theorem shutDown_finish (hopen : c.state ≠ .closed) (hphase : c.phase ≠ .ended)
    (hnever : c.isFinished = false) : c.ShutDown ((c.apply .stop).finish false) where
  ended := rfl
  stopping := rfl
  state_eq := by simp [state, states]
  linkCloses_eq := by
    rw [linkCloses, acts_finish_stop, List.countP_append, if_neg hopen]
    rfl
  dials_eq := by
    rw [dials, acts_finish_stop, List.countP_append]
    rfl
  reports_eq := by
    rw [reports, acts_finish_stop, List.filterMap_append]
    exact List.append_nil _
  taken_eq := by
    rw [taken, acts_finish_stop, List.filterMap_append]
    exact List.append_nil _
  feed_eq := rfl
  received_eq := rfl
  reconnects_eq := rfl
  now_eq := rfl
  signal_eq := by
    have hpending : c.signal = .pending := by simp [signal, hasEnded, hnever, hphase]
    have hdropped : ((c.apply .stop).finish false).isFinished = false := by
      rw [isFinished, acts_finish_stop, List.any_append]
      exact Bool.or_eq_false_iff.mpr ⟨hnever, rfl⟩
    rw [if_pos hpending, signal_eq_dropped rfl hdropped]
  consumed_eq := rfl
  buffer_eq := rfl
  readable := receiveUpTo_of_ended (c := (c.apply .stop).finish false) rfl

theorem run_of_shutdown (hended : c.phase = .ended) (hstopping : c.stopping = true)
    {later : List Event} (hlater : ∀ e ∈ later, e.isOfShutdown = true) : c.run later = c := by
  induction later using List.reverseRecOn with
  | nil => rfl
  | append_singleton later e ih =>
    rw [run_concat, ih fun d hd => hlater d (List.mem_append_left _ hd)]
    have he := hlater e (by simp)
    cases e with
    | stop =>
      change { c with stopping := true } = c
      rw [← hstopping]
    | step stopFirst => rw [apply, step?_of_ended hended, Option.getD_none]
    | _ => cases he

/-- A stop shuts down a task that waits, and the schedule has no part in it. -/
theorem Waits.run_shutdown (h : c.Waits) {tasks : List Event}
    (htasks : ∀ e ∈ tasks, e.isOfShutdown = true) (hstep : tasks.any (·.isStep) = true) :
    (c.apply .stop).run tasks = (c.apply .stop).settle := by
  by_cases hphase : c.phase = .ended
  · rw [settle_stop_of_ended hphase]
    exact run_of_shutdown (c := c.apply .stop) hphase rfl htasks
  · rw [h.settle_stop hphase]
    induction tasks with
    | nil => cases hstep
    | cons e tasks ih =>
      have hrest : ∀ e ∈ tasks, e.isOfShutdown = true := fun e he => htasks e (.tail _ he)
      have he := htasks e (.head _)
      change ((c.apply .stop).apply e).run tasks = _
      cases e with
      | stop => exact ih hrest hstep
      | step stopFirst =>
        have hends : (c.apply .stop).apply (.step stopFirst) = (c.apply .stop).finish false :=
          congrArg (·.getD (c.apply .stop)) (h.step?_stop hphase stopFirst)
        rw [hends]
        exact run_of_shutdown rfl rfl hrest
      | _ => cases he

end

section

variable {settings : ConnectionSettings} {endpoint : String} {feed : List Arrival}
  {plan : List DialOutcome} {c₀ : Connection}

theorem signals_run (hstart : start settings endpoint feed plan = .ok c₀) (events : List Event) :
    (c₀.run events).Signals := by
  induction events using List.reverseRecOn with
  | nil => exact (kept_start hstart).1.signals
  | append_singleton events e ih =>
    rw [run_concat]
    exact ih.after e

/-- Whatever the task of a connection waits for, a stop ends it at once, however its steps and
further stops are mixed: it closes its link and does nothing else, what is in the buffer can still
be read, and a signal that has not been given never will be. A connection that is closed already
is left as it is. -/
theorem stop_shuts_down (hstart : start settings endpoint feed plan = .ok c₀)
    (events : List Event) (hwaits : (c₀.run events).Waits) :
    let c := c₀.run events
    let d := (c.apply .stop).settle
    c.ShutDown d ∧
    (∀ tasks : List Event, (∀ e ∈ tasks, e.isOfShutdown = true) → tasks.any (·.isStep) = true →
      (c.apply .stop).run tasks = d) ∧
    (c.state = .closed → d = { c with stopping := true }) ∧
    ∀ later : List Event, (∀ e ∈ later, e.isOfShutdown = true) → d.run later = d := by
  intro c d
  obtain ⟨s, hcourse⟩ := (course_start hstart).1.run events
  have hclosed : c.state = .closed ↔ c.phase = .ended := hcourse.closed_iff
  have hshut : c.ShutDown d := by
    by_cases hphase : c.phase = .ended
    · have hd : d = c.apply .stop := settle_stop_of_ended hphase
      rw [hd]
      exact shutDown_of_ended hphase (hclosed.mpr hphase)
    · have hd : d = (c.apply .stop).finish false := hwaits.settle_stop hphase
      have hnever : c.isFinished = false := by
        rw [Bool.eq_false_iff]
        exact fun hfinished => hphase (signals_run hstart events hfinished).1
      rw [hd]
      exact shutDown_finish (mt hclosed.mp hphase) hphase hnever
  refine ⟨hshut, fun tasks htasks hstep => hwaits.run_shutdown htasks hstep, ?_, ?_⟩
  · exact fun h => settle_stop_of_ended (hclosed.mp h)
  · exact fun later hlater => run_of_shutdown hshut.ended hshut.stopping hlater

/-- The second of two bodies waits for room. After the stop the first can be read, and the second
has been counted but is lost. -/
theorem stop_shuts_down_of_full_buffer :
    ∃ c₀, start ⟨0, .collectd, 1, .ofSeconds 2, some 2⟩ "broker/telemetry" [.ok [1], .ok [2]] [] =
        .ok c₀ ∧
      let c := c₀.run [.step true, .step true, .step true]
      c.Waits ∧ c.signal = .pending ∧
        let d := c.run [.stop, .stop, .step false, .stop]
        d.state = .closed ∧ d.linkCloses = 1 ∧ d.received = 2 ∧ d.signal = .dropped ∧
          d.receiveUpTo 5 = ([[1]], .disconnected, d.afterRead 5) := by
  refine ⟨_, rfl, ?_⟩
  have hstart : start ⟨0, .collectd, 1, .ofSeconds 2, some 2⟩ "broker/telemetry"
    [.ok [1], .ok [2]] [] = .ok _ := rfl
  intro c
  have hwaits : c.Waits := waits_iff.mpr ⟨⟨rfl, Nat.le_refl 1⟩, by decide⟩
  obtain ⟨hshut, htasks, -⟩ := stop_shuts_down hstart [.step true, .step true, .step true] hwaits
  refine ⟨hwaits, rfl, ?_⟩
  intro d
  have hd : d = (c.apply .stop).settle := htasks [.stop, .step false, .stop] (by decide) rfl
  rw [← hd] at hshut
  exact ⟨hshut.state_eq, hshut.linkCloses_eq, hshut.received_eq, hshut.signal_eq, hshut.readable 5⟩

end

end ScrapeBridge.Connection
