import ScrapeBridge.Bus.Connection

namespace ScrapeBridge.Connection

section

variable (c : Connection)

def yielded (feed : List Arrival) : Connection := { c with feed }

def afterBody (body : Body) (feed : List Arrival) : Connection :=
  { (c.yielded feed).note [.took (.ok body)] with
    received := c.received + 1
    phase := .pushing body }

def afterClose (feed : List Arrival) : Connection :=
  ((c.yielded feed).note [.took (.error .closed)]).finish false

def afterFault (reason : String) (feed : List Arrival) : Connection :=
  (c.yielded feed).backOff [.took (.error (.fault reason)), .entered .reconnecting]

def afterPush (body : Body) : Connection :=
  { c.note [.pushed body] with
    buffer := c.buffer ++ [body]
    phase := .receiving }

def afterSleep : Connection := { c with reconnects := c.reconnects + 1, phase := .redialing }

def afterDial (outcome : DialOutcome) : Connection := { c with plan := c.plan.tail }.dial outcome

/-- What a step of the task can be. Proofs about runs go through these moves and never look into the
steps themselves. -/
inductive Move : Connection → Prop
  | drained (hphase : c.phase = .receiving) (hlimit : c.atLimit = true) : Move (c.finish true)
  | stopped (hphase : c.phase ≠ .ended) (hstopping : c.stopping = true) : Move (c.finish false)
  | body {body : Body} {feed : List Arrival} (hphase : c.phase = .receiving)
      (hlimit : c.atLimit = false) (hfeed : c.feed = .ok body :: feed) :
      Move (c.afterBody body feed)
  | closed {feed : List Arrival} (hphase : c.phase = .receiving) (hlimit : c.atLimit = false)
      (hfeed : c.feed = .error .closed :: feed) : Move (c.afterClose feed)
  | fault {reason : String} {feed : List Arrival} (hphase : c.phase = .receiving)
      (hlimit : c.atLimit = false) (hfeed : c.feed = .error (.fault reason) :: feed) :
      Move (c.afterFault reason feed)
  | push {body : Body} (hphase : c.phase = .pushing body) (hconsumer : c.consumerGone = false)
      (hroom : c.buffer.length < c.capacity) : Move (c.afterPush body)
  | abandoned {body : Body} (hphase : c.phase = .pushing body)
      (hconsumer : c.consumerGone = true) : Move (c.finish false)
  | sleep {deadline : Nat} (hphase : c.phase = .backingOff deadline) (hnow : deadline ≤ c.now) :
      Move c.afterSleep
  | dial (hphase : c.phase = .redialing) : Move (c.afterDial (c.plan.headD .opened))

end

section

variable (c : Connection) (body : Body) (feed : List Arrival)

@[simp] theorem acts_note (acts : List Act) : (c.note acts).acts = c.acts ++ acts := by
  simp [note, Connection.acts, Function.comp_def]

@[simp] theorem acts_finish (drained : Bool) : (c.finish drained).acts =
    c.acts ++ ([.closedLink, .entered .closed] ++ if drained then [.finished] else []) :=
  acts_note c _

@[simp] theorem acts_afterBody : (c.afterBody body feed).acts = c.acts ++ [.took (.ok body)] :=
  acts_note (c.yielded feed) _

@[simp] theorem acts_afterClose : (c.afterClose feed).acts =
    c.acts ++ [.took (.error .closed), .closedLink, .entered .closed] := by
  have h : (c.yielded feed).acts = c.acts := rfl
  simp [afterClose, h]

@[simp] theorem acts_afterFault (reason : String) : (c.afterFault reason feed).acts =
    c.acts ++ [.took (.error (.fault reason)), .entered .reconnecting, .reported .down,
      .closedLink] :=
  acts_note (c.yielded feed) _

@[simp] theorem acts_afterPush : (c.afterPush body).acts = c.acts ++ [.pushed body] :=
  acts_note c _

@[simp] theorem acts_afterSleep : c.afterSleep.acts = c.acts := rfl

def dialActs : DialOutcome → List Act
  | .opened => [.dialed, .entered .active, .reported .up]
  | .failed _ => [.dialed, .reported .down, .closedLink]
  | .unanswered => [.dialed]

@[simp] theorem acts_afterDial (outcome : DialOutcome) :
    (c.afterDial outcome).acts = c.acts ++ dialActs outcome := by
  cases outcome <;> exact acts_note _ _

end

variable {c d : Connection}

theorem move_of_proceed? (hlimit : ¬ (c.phase = .receiving ∧ c.atLimit = true))
    (h : c.proceed? = some d) : c.Move d := by
  unfold proceed? at h
  split at h
  case h_1 hphase =>
    have hmore : c.atLimit = false := by
      rw [Bool.eq_false_iff]
      exact fun hl => hlimit ⟨hphase, hl⟩
    split at h
    case h_1 => cases h
    case h_2 a feed hfeed =>
      cases h
      match a with
      | .ok body => exact .body hphase hmore hfeed
      | .error .closed => exact .closed hphase hmore hfeed
      | .error (.fault reason) => exact .fault hphase hmore hfeed
  case h_2 body hphase =>
    split at h
    case isTrue hgone => cases h; exact .abandoned hphase hgone
    case isFalse hhere =>
      split at h <;> cases h
      case isTrue hroom => exact .push hphase (Bool.eq_false_iff.mpr hhere) hroom
  case h_3 deadline hphase =>
    split at h <;> cases h
    case isTrue hnow => exact .sleep hphase hnow
  case h_4 hphase => cases h; exact .dial hphase
  all_goals cases h

theorem move_of_step? {stopFirst : Bool} (h : c.step? stopFirst = some d) : c.Move d := by
  unfold step? at h
  split at h
  case isTrue => cases h
  case isFalse hphase =>
    split at h
    case isTrue hlimit => cases h; exact .drained hlimit.1 hlimit.2
    case isFalse hlimit =>
      split at h
      case isFalse => exact move_of_proceed? hlimit h
      case isTrue hstopping =>
        split at h
        · cases h; exact .stopped hphase hstopping
        · cases hp : c.proceed? with
          | none => rw [hp] at h; cases h; exact .stopped hphase hstopping
          | some e => rw [hp] at h; cases h; exact move_of_proceed? hlimit hp

/-- What the task of a connection has no part in. -/
structure Unchanged (c d : Connection) : Prop where
  settings_eq : d.settings = c.settings
  endpoint_eq : d.endpoint = c.endpoint
  now_eq : d.now = c.now
  consumed_eq : d.consumed = c.consumed
  consumerGone_eq : d.consumerGone = c.consumerGone
  stopping_eq : d.stopping = c.stopping

theorem Move.unchanged (h : c.Move d) : c.Unchanged d := by
  cases h with
  | dial hphase =>
    generalize c.plan.headD .opened = outcome
    cases outcome <;> exact ⟨rfl, rfl, rfl, rfl, rfl, rfl⟩
  | _ => exact ⟨rfl, rfl, rfl, rfl, rfl, rfl⟩

theorem Move.not_ended (h : c.Move d) : c.phase ≠ .ended := by
  cases h <;> simp_all

theorem step?_of_ended (h : c.phase = .ended) (stopFirst : Bool) : c.step? stopFirst = none := by
  rw [step?, if_pos h]

/-- A task that has been told to stop never waits. -/
theorem ended_of_stopping (hstopping : c.stopping = true) (hwaits : c.step? true = none) :
    c.phase = .ended := by
  by_cases hphase : c.phase = .ended
  · exact hphase
  · rw [step?, if_neg hphase, if_pos hstopping] at hwaits
    split at hwaits <;> simp at hwaits

theorem phase_settle (hstopping : c.stopping = true) : c.settle.phase = .ended := by
  fun_induction settle c with
  | case1 c hwaits => exact ended_of_stopping hstopping hwaits
  | case2 c d hstep _ ih =>
    exact ih ((move_of_step? hstep).unchanged.stopping_eq.trans hstopping)

end ScrapeBridge.Connection
