import ScrapeBridge.Proofs.Bus.Course

namespace ScrapeBridge.Connection

def Event.isStep : Event → Bool
  | step _ => true
  | _ => false

def outcome? (c : Connection) : Event → Option DialOutcome
  | .step stopFirst =>
    if c.phase = .redialing ∧ ¬ (c.stopping = true ∧ stopFirst = true) then
      some (c.plan.headD .opened)
    else none
  | _ => none

def outcomes (c : Connection) : List Event → List DialOutcome
  | [] => []
  | e :: events => (c.outcome? e).toList ++ (c.apply e).outcomes events

def faults (c : Connection) : List String := c.acts.filterMap (·.fault?)

def linkAfter (isOpen : Bool) : Act → Bool
  | .entered .active => true
  | .closedLink => false
  | _ => isOpen

def linkOpen (acts : List Act) : Bool := acts.foldl linkAfter false

theorem linkOpen_append (l r : List Act) : linkOpen (l ++ r) = r.foldl linkAfter (linkOpen l) :=
  List.foldl_append

theorem outcomes_concat (c : Connection) (events : List Event) (e : Event) :
    c.outcomes (events ++ [e]) = c.outcomes events ++ ((c.run events).outcome? e).toList := by
  induction events generalizing c with
  | nil => simp [outcomes, run]
  | cons d events ih =>
    rw [List.cons_append, outcomes, outcomes, ih, List.append_assoc]
    rfl

structure Took (c : Connection) (s : Course) (outcomes : List DialOutcome) : Prop where
  acts_eq : c.acts.filter (·.isOfCourse) = s.acts
  outcomes_eq : outcomes = s.outcomes
  fits : s.Fits c.phase

section

variable {c d : Connection} {s : Course} {l : List DialOutcome}

theorem Took.finish (h : c.Took s l) (hphase : c.phase ≠ .ended) (drained : Bool) :
    (c.finish drained).Took { s with ended := true } l := by
  have hended : s.ended = false := by
    have hfits := h.fits
    revert hfits hphase
    cases c.phase <;> simp [Course.Fits]
  refine ⟨?_, h.outcomes_eq, rfl⟩
  rw [acts_finish, List.filter_append, h.acts_eq]
  cases drained <;> simp [Course.acts, hended, Act.isOfCourse]

theorem Took.fault (h : c.Took s l) (hphase : c.phase = .receiving) (reason : String)
    (feed : List Arrival) :
    (c.afterFault reason feed).Took { s with present := some ⟨reason, []⟩ } l := by
  have hfits := h.fits
  rw [hphase] at hfits
  obtain ⟨hpresent, hanswered, hended⟩ := hfits
  refine ⟨?_, ?_, rfl, hanswered, hended⟩
  · rw [acts_afterFault, List.filter_append, h.acts_eq]
    simp [Course.acts, Outage.acts, hpresent, hanswered, hended, Act.isOfCourse]
  · simp [h.outcomes_eq, Course.outcomes, hpresent]

theorem Took.dial (h : c.Took s l) (hphase : c.phase = .redialing) (outcome : DialOutcome) :
    ∃ s', (c.afterDial outcome).Took s' (l ++ [outcome]) := by
  have hfits := h.fits
  rw [hphase] at hfits
  obtain ⟨hpresent, hanswered, hended⟩ := hfits
  obtain ⟨o, ho⟩ := Option.isSome_iff_exists.mp hpresent
  have hacts : (c.afterDial outcome).acts.filter (·.isOfCourse) = s.acts ++ dialActs outcome := by
    rw [acts_afterDial, List.filter_append, h.acts_eq]
    cases outcome <;> rfl
  cases outcome with
  | opened =>
    refine ⟨{ s with past := s.past ++ [o], present := none }, ?_, ?_, rfl, hanswered, hended⟩
    · rw [hacts]
      simp [Course.acts, Outage.acts, dialActs, ho, hanswered, hended]
    · simp [h.outcomes_eq, Course.outcomes, ho, hanswered]
  | failed reason =>
    refine ⟨{ s with present := some { o with failures := o.failures ++ [reason] } }, ?_, ?_, rfl,
      hanswered, hended⟩
    · rw [hacts]
      simp [Course.acts, Outage.acts, dialActs, ho, hanswered, hended]
    · simp [h.outcomes_eq, Course.outcomes, ho, hanswered]
  | unanswered =>
    refine ⟨{ s with unanswered := true }, ?_, ?_, hpresent, rfl, hended⟩
    · rw [hacts]
      simp [Course.acts, dialActs, hanswered, hended]
    · simp [h.outcomes_eq, Course.outcomes, hanswered]

theorem Took.quiet (h : c.Took s l) {acts : List Act} (hacts : d.acts = c.acts ++ acts)
    (hquiet : acts.filter (·.isOfCourse) = []) (hfits : s.Fits c.phase → s.Fits d.phase) :
    d.Took s l := by
  refine ⟨?_, h.outcomes_eq, hfits h.fits⟩
  rw [hacts, List.filter_append, h.acts_eq, hquiet, List.append_nil]

theorem Took.move (h : c.Took s l) (hmove : c.Move d) (hphase : c.phase ≠ .redialing) :
    ∃ s', d.Took s' l := by
  have hended := hmove.not_ended
  cases hmove with
  | drained _ hlimit => exact ⟨_, h.finish hended true⟩
  | stopped _ hstopping => exact ⟨_, h.finish hended false⟩
  | abandoned _ hconsumer => exact ⟨_, h.finish hended false⟩
  | @body body feed hreceiving hlimit hfeed =>
    refine ⟨s, h.quiet (acts_afterBody c body feed) rfl fun hfits => ?_⟩
    rwa [hreceiving] at hfits
  | @closed feed hreceiving hlimit hfeed =>
    have hnoted : ((c.yielded feed).note [.took (.error .closed)]).Took s l :=
      h.quiet (acts_note (c.yielded feed) _) rfl id
    exact ⟨_, hnoted.finish hended false⟩
  | fault hreceiving hlimit hfeed => exact ⟨_, h.fault hreceiving _ _⟩
  | @push body hpushing hconsumer hroom =>
    refine ⟨s, h.quiet (acts_afterPush c body) rfl fun hfits => ?_⟩
    rwa [hpushing] at hfits
  | sleep hbacking hnow =>
    refine ⟨s, h.quiet (d := c.afterSleep) (List.append_nil _).symm rfl fun hfits => ?_⟩
    rwa [hbacking] at hfits
  | dial hredialing => exact absurd hredialing hphase

theorem step?_of_redialing (hphase : c.phase = .redialing) (stopFirst : Bool) :
    c.step? stopFirst = some (if c.stopping = true ∧ stopFirst = true then c.finish false
      else c.afterDial (c.plan.headD .opened)) := by
  have hproceed : c.proceed? = some (c.afterDial (c.plan.headD .opened)) := by
    simp [proceed?, hphase, afterDial]
  unfold step?
  rw [hproceed, if_neg (by simp [hphase]), if_neg (by simp [hphase])]
  cases c.stopping <;> cases stopFirst <;> rfl

theorem apply_around {e : Event} (he : e.isStep = false) :
    (c.apply e).acts = c.acts ∧ (c.apply e).phase = c.phase ∧
      (c.apply e).received = c.received := by
  cases e with
  | step stopFirst => cases he
  | receive => cases hbuffer : c.buffer <;> simp [apply, receive?, hbuffer, Connection.acts]
  | _ => exact ⟨rfl, rfl, rfl⟩

theorem Took.after (h : c.Took s l) (e : Event) :
    ∃ s', (c.apply e).Took s' (l ++ (c.outcome? e).toList) := by
  have haround : e.isStep = false → c.outcome? e = none →
      ∃ s', (c.apply e).Took s' (l ++ (c.outcome? e).toList) := by
    intro he hnone
    obtain ⟨hacts, hphase, -⟩ := apply_around he
    rw [hnone, Option.toList_none, List.append_nil]
    refine ⟨s, h.quiet (hacts.trans (List.append_nil _).symm) rfl fun hfits => ?_⟩
    rwa [hphase]
  cases e with
  | step stopFirst =>
    change ∃ s', ((c.step? stopFirst).getD c).Took s' _
    -- Only a redial has an outcome, and only a stop that goes first keeps it from being made.
    by_cases hphase : c.phase = .redialing
    · rw [step?_of_redialing hphase, outcome?]
      by_cases hstopped : c.stopping = true ∧ stopFirst = true
      · rw [if_pos hstopped, if_neg (fun hdial => hdial.2 hstopped)]
        simpa using ⟨_, h.finish (by simp [hphase]) false⟩
      · rw [if_neg hstopped, if_pos ⟨hphase, hstopped⟩]
        exact h.dial hphase _
    · rw [outcome?, if_neg (fun hdial => hphase hdial.1), Option.toList_none, List.append_nil]
      cases hstep : c.step? stopFirst with
      | none => exact ⟨s, h⟩
      | some d => exact h.move (move_of_step? hstep) hphase
  | _ => exact haround rfl rfl

theorem Took.run (h : c.Took s l) (events : List Event) :
    ∃ s', (c.run events).Took s' (l ++ c.outcomes events) := by
  induction events using List.reverseRecOn with
  | nil =>
    rw [outcomes, List.append_nil]
    exact ⟨s, h⟩
  | append_singleton events e ih =>
    obtain ⟨s', h'⟩ := ih
    rw [run_concat, outcomes_concat, ← List.append_assoc]
    exact h'.after e

end

def Phase.hasLink : Phase → Bool
  | .receiving => true
  | .pushing _ => true
  | _ => false

/-- A connection that has never had two links. -/
structure Tidy (c : Connection) : Prop where
  linkOpen_eq : linkOpen c.acts = c.phase.hasLink
  closed : ∀ before, before ++ [.dialed] <+: c.acts → linkOpen before = false

section

variable {c d : Connection}

theorem Tidy.quiet (h : c.Tidy) {acts : List Act} (hacts : d.acts = c.acts ++ acts)
    (hquiet : ∀ a ∈ acts, a.isDial = false) (hopen : linkOpen (c.acts ++ acts) = d.phase.hasLink) :
    d.Tidy := by
  refine ⟨hacts ▸ hopen, fun before hbefore => h.closed before ?_⟩
  rw [hacts] at hbefore
  clear hacts hopen
  induction acts using List.reverseRecOn with
  | nil => rwa [List.append_nil] at hbefore
  | append_singleton acts a ih =>
    rw [← List.append_assoc, List.prefix_concat_iff] at hbefore
    rcases hbefore with heq | hbefore
    · have hlast := (List.append_inj' heq rfl).2
      have ha := hquiet a (by simp)
      rw [← List.head_eq_of_cons_eq hlast] at ha
      cases ha
    · exact ih (fun b hb => hquiet b (List.mem_append_left _ hb)) hbefore

theorem Tidy.dial (h : c.Tidy) (hphase : c.phase = .redialing) (outcome : DialOutcome) :
    (c.afterDial outcome).Tidy := by
  have hclosed : linkOpen c.acts = false := by rw [h.linkOpen_eq, hphase]; rfl
  -- The link is closed when the dial is noted, and no outcome adds another dial.
  have hdialed : (c.note [.dialed]).Tidy := by
    refine ⟨?_, fun before hbefore => ?_⟩
    · rw [acts_note, linkOpen_append, hclosed]
      change false = c.phase.hasLink
      rw [hphase]
      rfl
    · rw [acts_note, List.prefix_concat_iff] at hbefore
      rcases hbefore with heq | hbefore
      · rw [(List.append_inj' heq rfl).1]
        exact hclosed
      · exact h.closed before hbefore
  have hnoted : c.acts ++ [.dialed] = (c.note [.dialed]).acts := (acts_note c _).symm
  cases outcome with
  | opened =>
    have hacts : (c.afterDial .opened).acts =
        (c.note [.dialed]).acts ++ [.entered .active, .reported .up] := by
      rw [acts_afterDial, ← hnoted, List.append_assoc]
      rfl
    refine hdialed.quiet hacts (by simp [Act.isDial]) ?_
    rw [linkOpen_append]
    rfl
  | failed reason =>
    have hacts : (c.afterDial (.failed reason)).acts =
        (c.note [.dialed]).acts ++ [.reported .down, .closedLink] := by
      rw [acts_afterDial, ← hnoted, List.append_assoc]
      rfl
    refine hdialed.quiet hacts (by simp [Act.isDial]) ?_
    rw [linkOpen_append]
    rfl
  | unanswered =>
    have hacts : (c.afterDial .unanswered).acts = (c.note [.dialed]).acts ++ [] := by
      rw [acts_afterDial, ← hnoted, List.append_nil]
      rfl
    refine hdialed.quiet hacts (by simp) ?_
    rw [List.append_nil, hdialed.linkOpen_eq]
    change c.phase.hasLink = false
    rw [hphase]
    rfl

theorem Tidy.finish (h : c.Tidy) (drained : Bool) : (c.finish drained).Tidy := by
  refine h.quiet (acts_finish c drained) ?_ ?_
  · cases drained <;> simp [Act.isDial]
  · rw [linkOpen_append]
    cases drained <;> rfl

theorem Tidy.move (h : c.Tidy) (hmove : c.Move d) : d.Tidy := by
  have hopen := h.linkOpen_eq
  cases hmove with
  | drained _ hlimit => exact h.finish true
  | stopped _ hstopping => exact h.finish false
  | abandoned _ hconsumer => exact h.finish false
  | @body body feed hreceiving hlimit hfeed =>
    refine h.quiet (acts_afterBody c body feed) (by simp [Act.isDial]) ?_
    rw [linkOpen_append, hopen, hreceiving]
    rfl
  | @closed feed hreceiving hlimit hfeed =>
    refine h.quiet (acts_afterClose c feed) (by simp [Act.isDial]) ?_
    rw [linkOpen_append]
    rfl
  | @fault reason feed hreceiving hlimit hfeed =>
    refine h.quiet (acts_afterFault c feed reason) (by simp [Act.isDial]) ?_
    rw [linkOpen_append]
    rfl
  | @push body hpushing hconsumer hroom =>
    refine h.quiet (acts_afterPush c body) (by simp [Act.isDial]) ?_
    rw [linkOpen_append, hopen, hpushing]
    rfl
  | sleep hbacking hnow =>
    refine h.quiet (d := c.afterSleep) (List.append_nil _).symm (by simp) ?_
    rw [List.append_nil, hopen, hbacking]
    rfl
  | dial hredialing => exact h.dial hredialing _

theorem Tidy.run (h : c.Tidy) (events : List Event) : (c.run events).Tidy := by
  induction events using List.reverseRecOn with
  | nil => exact h
  | append_singleton events e ih =>
    rw [run_concat]
    generalize c.run events = c at ih
    have haround : e.isStep = false → (c.apply e).Tidy := by
      intro he
      obtain ⟨hacts, hphase, -⟩ := apply_around (c := c) he
      refine ⟨?_, fun before hbefore => ih.closed before (hacts ▸ hbefore)⟩
      rw [hacts, hphase, ih.linkOpen_eq]
    cases e with
    | step stopFirst =>
      change ((c.step? stopFirst).getD c).Tidy
      cases hstep : c.step? stopFirst with
      | none => exact ih
      | some d => exact ih.move (move_of_step? hstep)
    | _ => exact haround rfl

end

section

variable {settings : ConnectionSettings} {endpoint : String} {feed : List Arrival}
  {plan : List DialOutcome} {c : Connection}

theorem course_start (hstart : start settings endpoint feed plan = .ok c) :
    c.Took {} [.opened] ∧ c.Tidy := by
  unfold start at hstart
  split at hstart
  · cases hstart
  · split at hstart <;> cases hstart
    refine ⟨⟨rfl, rfl, rfl, rfl, rfl⟩, rfl, fun before ⟨after, hafter⟩ => ?_⟩
    rcases before with _ | ⟨a, _ | ⟨b, before⟩⟩
    · cases hafter
    · cases hafter
      rfl
    · rcases before with _ | ⟨a', _ | ⟨b', before⟩⟩ <;> simp [Connection.acts] at hafter

end

section

variable {c : Connection} {s : Course} {l : List DialOutcome}

theorem Took.filterMap_acts {α : Type} (h : c.Took s l) {f : Act → Option α}
    (hf : ∀ a, a.isOfCourse = false → f a = none) : c.acts.filterMap f = s.acts.filterMap f := by
  rw [← h.acts_eq, List.filterMap_filter]
  refine List.filterMap_congr fun a _ => ?_
  by_cases ha : a.isOfCourse = true
  · rw [if_pos ha]
  · rw [if_neg ha]
    exact hf a (Bool.eq_false_iff.mpr ha)

theorem Took.countP_acts (h : c.Took s l) {p : Act → Bool}
    (hp : ∀ a, p a = true → a.isOfCourse = true) : c.acts.countP p = s.acts.countP p := by
  rw [← h.acts_eq, List.countP_filter]
  refine List.countP_congr fun a _ => ?_
  rw [Bool.and_eq_true]
  exact ⟨fun ha => ⟨ha, hp a ha⟩, And.left⟩

theorem Took.states_eq (h : c.Took s l) : c.states = s.acts.filterMap (·.state?) := by
  refine Eq.trans ?_ (h.filterMap_acts (f := Act.state?) fun a ha => ?_)
  · exact congrArg (c.acts.filterMap ·) (funext fun a => by cases a <;> rfl)
  · cases a <;> first | rfl | cases ha

theorem Took.reports_eq (h : c.Took s l) : c.reports = s.acts.filterMap (·.report?) := by
  refine Eq.trans ?_ (h.filterMap_acts (f := Act.report?) fun a ha => ?_)
  · exact congrArg (c.acts.filterMap ·) (funext fun a => by cases a <;> rfl)
  · cases a <;> first | rfl | cases ha

theorem Took.faults_eq (h : c.Took s l) : c.faults = s.acts.filterMap (·.fault?) := by
  refine h.filterMap_acts fun a ha => ?_
  unfold Act.fault?
  split
  · cases ha
  · rfl

theorem Took.dials_eq (h : c.Took s l) : c.dials = s.acts.countP (·.isDial) := by
  refine Eq.trans ?_ (h.countP_acts (p := Act.isDial) fun a ha => ?_)
  · exact congrArg (c.acts.countP ·) (funext fun a => by cases a <;> rfl)
  · cases a <;> first | rfl | cases ha

theorem Took.linkCloses_eq (h : c.Took s l) : c.linkCloses = s.acts.countP (·.isClose) := by
  refine Eq.trans ?_ (h.countP_acts (p := Act.isClose) fun a ha => ?_)
  · exact congrArg (c.acts.countP ·) (funext fun a => by cases a <;> rfl)
  · cases a <;> first | rfl | cases ha

theorem Took.state_eq (h : c.Took s l) :
    c.state = if s.ended then .closed else if s.present.isSome then .reconnecting else .active := by
  rw [state, h.states_eq, s.last_state, Option.getD_some]

theorem Took.ended_iff (h : c.Took s l) : s.ended = true ↔ c.phase = .ended := by
  have hfits := h.fits
  cases hphase : c.phase <;> rw [hphase] at hfits
  case ended => exact iff_of_true hfits rfl
  all_goals exact iff_of_false (by simp [hfits.2.2]) (by simp)

theorem Took.closed_iff (h : c.Took s l) : c.state = .closed ↔ c.phase = .ended := by
  rw [h.state_eq, ← h.ended_iff]
  cases s.ended <;> cases s.present <;> simp

theorem Took.active_iff (h : c.Took s l) (hopen : c.state ≠ .closed) :
    c.state = .active ↔ c.reports.getLast? = some .up := by
  rw [h.state_eq] at hopen
  rw [h.reports_eq, s.last_report, h.state_eq]
  revert hopen
  cases s.ended <;> cases s.present <;> simp

end

theorem closed_of_ended {settings : ConnectionSettings} {endpoint : String} {feed : List Arrival}
    {plan : List DialOutcome} {c : Connection} (hstart : start settings endpoint feed plan = .ok c)
    {events : List Event} (hended : (c.run events).phase = .ended) :
    (c.run events).state = .closed ∧ linkOpen (c.run events).acts = false := by
  obtain ⟨htook, htidy⟩ := course_start hstart
  obtain ⟨s, h⟩ := htook.run events
  refine ⟨h.closed_iff.mpr hended, ?_⟩
  rw [(htidy.run events).linkOpen_eq, hended]
  rfl

/-- A connection goes from link to link, through outages in between, and does nothing once it has
ended. -/
theorem run_follows_course {settings : ConnectionSettings} {endpoint : String}
    {feed : List Arrival} {plan : List DialOutcome} {c₀ : Connection}
    (hstart : start settings endpoint feed plan = .ok c₀) (events : List Event) :
    let c := c₀.run events
    let outcomes := .opened :: c₀.outcomes events
    (∃ s : Course,
      c.acts.filter (·.isOfCourse) = s.acts ∧ s.outcomes = outcomes ∧
      (s.ended = true ↔ c.phase = .ended) ∧
      c.states = [.connecting, .active] ++ s.past.flatMap (fun _ => [.reconnecting, .active]) ++
        s.present.toList.map (fun _ => .reconnecting) ++ (if s.ended then [.closed] else []) ∧
      c.reports =
        [.up] ++ s.past.flatMap (fun o => List.replicate (1 + o.failures.length) .down ++ [.up]) ++
          s.present.toList.flatMap fun o => List.replicate (1 + o.failures.length) .down) ∧
    (c.state = .closed ↔ c.phase = .ended) ∧
    (c.state = .closed → ∀ later, (c.run later).acts = c.acts) ∧
    (c.state ≠ .closed → (c.state = .active ↔ c.reports.getLast? = some .up)) ∧
    c.dials = outcomes.length ∧
    c.reports.count .down = c.faults.length + outcomes.countP isFailed ∧
    c.reports.count .up = outcomes.count .opened ∧
    c.linkCloses = c.reports.count .down + (if c.state = .closed then 1 else 0) ∧
    (∀ before, before ++ [.dialed] <+: c.acts → linkOpen before = false) ∧
    (c.state = .closed → linkOpen c.acts = false) := by
  intro c outcomes
  obtain ⟨htook, htidy⟩ := course_start hstart
  obtain ⟨s, h⟩ := htook.run events
  have hlink : c.Tidy := htidy.run events
  obtain ⟨hdials, hdowns, hups, hcloses⟩ := s.counts_acts
  refine ⟨⟨s, h.acts_eq, h.outcomes_eq.symm, h.ended_iff, ?_, ?_⟩, h.closed_iff, ?_, h.active_iff,
    ?_, ?_, ?_, ?_, hlink.closed, ?_⟩
  · rw [h.states_eq, s.states_acts]
  · rw [h.reports_eq, s.reports_acts]
  · intro hclosed later
    rw [Connection.acts, (history_run_of_ended (h.closed_iff.mp hclosed) later).2, Connection.acts]
  · rw [h.dials_eq, hdials, ← h.outcomes_eq]
    rfl
  · rw [h.reports_eq, h.faults_eq, hdowns, ← h.outcomes_eq]
    rfl
  · rw [h.reports_eq, hups, ← h.outcomes_eq]
    rfl
  · rw [h.linkCloses_eq, hcloses, h.reports_eq]
    congr 1
    exact if_congr (h.ended_iff.trans h.closed_iff.symm) rfl rfl
  · exact fun hclosed => (closed_of_ended hstart (h.closed_iff.mp hclosed)).2

/-- Two outages, the first with a dial that fails; a stop finds the redial of the second
unanswered. -/
theorem run_follows_course_of_hanging_dial :
    ∃ c₀, start ⟨0, .collectd, 1, .ofSeconds 2, none⟩ "broker/telemetry"
        [.error (.fault "reset"), .error (.fault "gone")]
        [.opened, .failed "refused", .opened, .unanswered] = .ok c₀ ∧
      let c := c₀.run [.step true, .advance 2000000000, .step true, .step true,
        .advance 2000000000, .step true, .step true, .step true, .advance 2000000000, .step true,
        .step true, .stop, .step true]
      c.state = .closed ∧ c.dials = 4 ∧ c.reports = [.up, .down, .down, .up, .down] ∧
        c.linkCloses = 4 ∧ linkOpen c.acts = false := by
  refine ⟨_, rfl, ?_⟩
  have hstart : start ⟨0, .collectd, 1, .ofSeconds 2, none⟩ "broker/telemetry"
    [.error (.fault "reset"), .error (.fault "gone")]
    [.opened, .failed "refused", .opened, .unanswered] = .ok _ := rfl
  have h := run_follows_course hstart [.step true, .advance 2000000000, .step true, .step true,
    .advance 2000000000, .step true, .step true, .step true, .advance 2000000000, .step true,
    .step true, .stop, .step true]
  obtain ⟨-, hended, -, -, hdials, -, -, hcloses, -, hlink⟩ := h
  have hclosed := hended.mpr rfl
  refine ⟨hclosed, hdials, rfl, hcloses.trans ?_, hlink hclosed⟩
  rw [if_pos hclosed]
  rfl

end ScrapeBridge.Connection
