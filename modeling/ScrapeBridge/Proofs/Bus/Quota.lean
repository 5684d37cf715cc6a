import ScrapeBridge.Bus.Handle
import ScrapeBridge.Proofs.Bus.Consumer
import ScrapeBridge.Proofs.Bus.Lifecycle

namespace ScrapeBridge.Connection

/-- What ends a task that has not been through all its messages. -/
def CutShort (c : Connection) : Prop :=
  c.stopping = true ∨ c.consumerGone = true ∨ c.taken.getLast? = some (.error .closed)

/-- A connection that keeps to its limit. -/
structure Quota (n : Nat) (c : Connection) : Prop where
  limit_eq : c.settings.messageCount = some n
  ledger : ∃ arrivals, c.Ledger arrivals
  signals : c.Signals
  received_le : c.received ≤ n
  unfilled : c.phase ≠ .receiving → c.isFinished = false → c.pushes.length < n
  filled : c.isFinished = true → c.pushes.length = n
  cause : c.phase = .ended → c.isFinished = false → c.CutShort
  closed : .error .closed ∈ c.taken → c.phase = .ended ∧ c.isFinished = false

section

variable {c d : Connection} {n : Nat}

theorem isFinished_iff : c.isFinished = true ↔ .finished ∈ c.acts := by
  unfold isFinished
  rw [List.any_eq_true]
  constructor
  · rintro ⟨a, ha, hfinished⟩
    cases a <;> first | exact ha | cases hfinished
  · exact fun ha => ⟨_, ha, rfl⟩

theorem atLimit_iff (hlimit : c.settings.messageCount = some n) :
    c.atLimit = true ↔ n ≤ c.received := by
  simp [atLimit, hlimit]

theorem step?_of_atLimit (hphase : c.phase = .receiving) (hlimit : c.atLimit = true)
    (stopFirst : Bool) : c.step? stopFirst = some (c.finish true) := by
  rw [step?, if_neg (by simp [hphase]), if_pos ⟨hphase, hlimit⟩]

theorem Signals.after (h : c.Signals) (e : Event) : (c.apply e).Signals := by
  have haround : e.isStep = false → (c.apply e).Signals := by
    intro he
    obtain ⟨hacts, hphase, -⟩ := apply_around (c := c) he
    rw [Signals, isFinished, hphase, hacts]
    exact h
  cases e with
  | step stopFirst =>
    change ((c.step? stopFirst).getD c).Signals
    cases hstep : c.step? stopFirst with
    | none => exact h
    | some d => exact h.move (move_of_step? hstep)
  | _ => exact haround rfl

theorem Ledger.received_of_receiving {arrivals : List Arrival} (h : c.Ledger arrivals)
    (hphase : c.phase = .receiving) : c.received = c.pushes.length := by
  rw [h.received_eq, h.accounted_of_not_ended (by simp [hphase]),
    inHand_of_not_pushing (by simp [hphase]), List.append_nil]

theorem Quota.pushes_lt (h : c.Quota n) (hmove : c.Move d)
    (hopen : ¬ (c.phase = .receiving ∧ c.atLimit = true)) : c.pushes.length < n := by
  by_cases hphase : c.phase = .receiving
  · obtain ⟨arrivals, hledger⟩ := h.ledger
    have hbelow : ¬ n ≤ c.received := fun hle => hopen ⟨hphase, (atLimit_iff h.limit_eq).mpr hle⟩
    have hreceived := hledger.received_of_receiving hphase
    omega
  · exact h.unfilled hphase (h.signals.isFinished_of_move hmove)

theorem Quota.quiet (h : c.Quota n) (hmove : c.Move d) (hlt : c.pushes.length < n)
    {acts : List Act} (hacts : d.acts = c.acts ++ acts) (hfinished : .finished ∉ acts)
    (hpushes : d.phase ≠ .receiving → acts.filterMap (·.push?) = [])
    (hclosed : .error .closed ∈ acts.filterMap (·.arrival?) → d.phase = .ended)
    (hreceived : d.received ≤ n) (hcause : d.phase = .ended → d.CutShort) : d.Quota n := by
  obtain ⟨arrivals, hledger⟩ := h.ledger
  have hnever : d.isFinished = false := by
    rw [Bool.eq_false_iff, Ne, isFinished_iff, hacts, List.mem_append]
    rintro (hbefore | hnow)
    · exact Bool.eq_false_iff.mp (h.signals.isFinished_of_move hmove) (isFinished_iff.mpr hbefore)
    · exact hfinished hnow
  refine ⟨hmove.unchanged.settings_eq ▸ h.limit_eq, ⟨arrivals, hledger.move hmove⟩,
    h.signals.move hmove, hreceived, fun hphase _ => ?_, fun hd => ?_,
    fun hphase _ => hcause hphase, fun hd => ⟨?_, hnever⟩⟩
  -- The bound is only kept away from the limit check, and a push leads right back to it.
  · rw [pushes, hacts, List.filterMap_append, hpushes hphase, List.append_nil]
    exact hlt
  · rw [hnever] at hd
    cases hd
  · rw [taken, hacts, List.filterMap_append, List.mem_append] at hd
    rcases hd with hbefore | hnow
    · exact absurd (h.closed hbefore).1 hmove.not_ended
    · exact hclosed hnow

theorem Quota.drain (h : c.Quota n) (hphase : c.phase = .receiving) (hlimit : c.atLimit = true) :
    (c.finish true).Quota n := by
  have hmove : c.Move (c.finish true) := .drained hphase hlimit
  obtain ⟨arrivals, hledger⟩ := h.ledger
  have hfinished : (c.finish true).isFinished = true := isFinished_iff.mpr (by simp)
  have hpushes : (c.finish true).pushes = c.pushes := by simp [pushes, Act.push?]
  have htaken : (c.finish true).taken = c.taken := by simp [taken, Act.arrival?]
  refine ⟨h.limit_eq, ⟨arrivals, hledger.move hmove⟩, h.signals.move hmove, h.received_le,
    fun _ hd => ?_, fun _ => ?_, fun _ hd => ?_, fun hd => ?_⟩
  · rw [hfinished] at hd
    cases hd
  · have hle := h.received_le
    have hge := (atLimit_iff h.limit_eq).mp hlimit
    have hreceived := hledger.received_of_receiving hphase
    rw [hpushes]
    omega
  · rw [hfinished] at hd
    cases hd
  · rw [htaken] at hd
    exact absurd (h.closed hd).1 hmove.not_ended

theorem Quota.move (h : c.Quota n) (hmove : c.Move d)
    (hopen : ¬ (c.phase = .receiving ∧ c.atLimit = true)) : d.Quota n := by
  have hlt := h.pushes_lt hmove hopen
  have hreceived := h.received_le
  cases hmove with
  | drained hphase hlimit => exact h.drain hphase hlimit
  | stopped hphase hstopping =>
    exact h.quiet (.stopped hphase hstopping) hlt (acts_finish c false) (by simp) (fun _ => rfl)
      (fun _ => rfl) hreceived fun _ => .inl hstopping
  | abandoned hphase hconsumer =>
    exact h.quiet (.abandoned hphase hconsumer) hlt (acts_finish c false) (by simp) (fun _ => rfl)
      (fun _ => rfl) hreceived fun _ => .inr (.inl hconsumer)
  | @body body feed hphase hlimit hfeed =>
    have hmore : ¬ n ≤ c.received := fun hle => hopen ⟨hphase, (atLimit_iff h.limit_eq).mpr hle⟩
    exact h.quiet (.body hphase hlimit hfeed) hlt (acts_afterBody c body feed) (by simp)
      (fun _ => rfl) (by simp [Act.arrival?]) (Nat.not_le.mp hmore) (by simp [afterBody])
  | @closed feed hphase hlimit hfeed =>
    exact h.quiet (.closed hphase hlimit hfeed) hlt (acts_afterClose c feed) (by simp)
      (fun _ => rfl) (fun _ => rfl) hreceived
      fun _ => .inr (.inr (by simp [taken, List.filterMap_append, Act.arrival?]))
  | @fault reason feed hphase hlimit hfeed =>
    exact h.quiet (.fault hphase hlimit hfeed) hlt (acts_afterFault c feed reason) (by simp)
      (fun _ => rfl) (by simp [Act.arrival?]) hreceived (by simp [afterFault, backOff])
  | @push body hphase hconsumer hroom =>
    exact h.quiet (.push hphase hconsumer hroom) hlt (acts_afterPush c body) (by simp)
      (fun hd => absurd rfl hd) (by simp [Act.arrival?]) hreceived (by simp [afterPush])
  | sleep hphase hnow =>
    have hacts : c.afterSleep.acts = c.acts ++ [] := (List.append_nil _).symm
    exact h.quiet (.sleep hphase hnow) hlt hacts (by simp) (fun _ => rfl) (by simp) hreceived
      (by simp [afterSleep])
  | dial hphase =>
    refine h.quiet (.dial hphase) hlt (acts_afterDial c _) ?_ ?_ ?_ ?_ ?_
    all_goals
      generalize c.plan.headD .opened = outcome
      cases outcome <;>
        simp [dialActs, afterDial, Connection.dial, backOff, note, Act.push?, Act.arrival?,
          h.received_le]

theorem Quota.after (h : c.Quota n) (e : Event) : (c.apply e).Quota n := by
  obtain ⟨arrivals, hledger⟩ := h.ledger
  have haround : e.isStep = false → (c.stopping = true → (c.apply e).stopping = true) →
      (c.consumerGone = true → (c.apply e).consumerGone = true) → (c.apply e).Quota n := by
    intro he hstopping hgone
    obtain ⟨hacts, hphase, hreceived⟩ := apply_around (c := c) he
    have hpushes : (c.apply e).pushes = c.pushes := by rw [pushes, hacts, pushes]
    have htaken : (c.apply e).taken = c.taken := by rw [taken, hacts, taken]
    have hfinished : (c.apply e).isFinished = c.isFinished := by
      rw [isFinished, hacts, isFinished]
    refine ⟨(settings_apply c e) ▸ h.limit_eq, ⟨_, hledger.after e⟩, h.signals.after e,
      hreceived ▸ h.received_le, ?_, ?_, ?_, ?_⟩
    · rw [hphase, hfinished, hpushes]
      exact h.unfilled
    · rw [hfinished, hpushes]
      exact h.filled
    · rw [hphase, hfinished, CutShort, htaken]
      exact fun hended hnever => (h.cause hended hnever).imp hstopping (.imp_left hgone)
    · rw [htaken, hphase, hfinished]
      exact h.closed
  cases e with
  | step stopFirst =>
    change ((c.step? stopFirst).getD c).Quota n
    by_cases hopen : c.phase = .receiving ∧ c.atLimit = true
    · rw [step?_of_atLimit hopen.1 hopen.2]
      exact h.drain hopen.1 hopen.2
    · cases hstep : c.step? stopFirst with
      | none => exact h
      | some d => exact h.move (move_of_step? hstep) hopen
  | receive =>
    refine haround rfl ?_ ?_ <;> cases hbuffer : c.buffer <;> simp [apply, receive?, hbuffer]
  | stop => exact haround rfl (fun _ => rfl) id
  | dropConsumer => exact haround rfl id fun _ => rfl
  | _ => exact haround rfl id id

theorem Quota.run (h : c.Quota n) (events : List Event) : (c.run events).Quota n := by
  induction events using List.reverseRecOn with
  | nil => exact h
  | append_singleton events e ih =>
    rw [run_concat]
    exact ih.after e

theorem quota_start {settings : ConnectionSettings} {endpoint : String} {feed : List Arrival}
    {plan : List DialOutcome} (hlimit : settings.messageCount = some n)
    (hstart : start settings endpoint feed plan = .ok c) : c.Quota n := by
  have hkept := (kept_start hstart).1
  refine ⟨settings_start hstart ▸ hlimit, hkept.ledger, hkept.signals, ?_, ?_, ?_, ?_, ?_⟩
  all_goals
    unfold start at hstart
    split at hstart
    · cases hstart
    · split at hstart <;> cases hstart
      simp [Connection.acts, isFinished, taken, Act.arrival?]

/-- A task that has pushed every body has signalled, or is about to. -/
theorem Quota.full (h : c.Quota n) (hfull : c.pushes.length = n) :
    c.phase = .ended ∧ c.isFinished = true ∨ c.phase = .receiving ∧ c.atLimit = true := by
  by_cases hphase : c.phase = .receiving
  · obtain ⟨arrivals, hledger⟩ := h.ledger
    have hreceived := hledger.received_of_receiving hphase
    exact .inr ⟨hphase, (atLimit_iff h.limit_eq).mpr (by omega)⟩
  · by_cases hfinished : c.isFinished = true
    · exact .inl ⟨(h.signals hfinished).1, hfinished⟩
    · have hlt := h.unfilled hphase (Bool.eq_false_iff.mpr hfinished)
      omega

theorem Quota.acts_apply_of_full (h : c.Quota n) (hfull : c.pushes.length = n) (e : Event) :
    (c.apply e).acts = c.acts ∨
      (c.apply e).acts = c.acts ++ [.closedLink, .entered .closed, .finished] := by
  rcases h.full hfull with ⟨hphase, -⟩ | ⟨hphase, hlimit⟩
  · rw [Connection.acts, (history_apply_of_ended hphase e).2]
    exact .inl rfl
  · by_cases he : e.isStep = true
    · cases e with
      | step stopFirst =>
        refine .inr ?_
        rw [Connection.apply, step?_of_atLimit hphase hlimit, Option.getD_some, acts_finish]
        rfl
      | _ => cases he
    · exact .inl (apply_around (Bool.eq_false_iff.mpr he)).1

theorem Quota.run_of_full (h : c.Quota n) (hfull : c.pushes.length = n) (later : List Event) :
    (c.run later).taken = c.taken ∧ (c.run later).dials = c.dials ∧
      (c.run later).pushes = c.pushes := by
  induction later using List.reverseRecOn with
  | nil => exact ⟨rfl, rfl, rfl⟩
  | append_singleton later e ih =>
    obtain ⟨htaken, hdials, hpushes⟩ := ih
    rw [run_concat, ← htaken, ← hdials, ← hpushes]
    have hlater : (c.run later).pushes.length = n := by rw [hpushes, hfull]
    rcases (h.run later).acts_apply_of_full hlater e with hacts | hacts
    · rw [taken, dials, pushes, hacts]
      exact ⟨rfl, rfl, rfl⟩
    · simp [taken, dials, pushes, hacts, Act.arrival?, Act.push?]

/-- Whatever happens first, the next step of a task that has pushed every body is its last. -/
theorem Quota.step_of_full (h : c.Quota n) (hfull : c.pushes.length = n) (stopFirst : Bool) :
    (c.apply (.step stopFirst)).phase = .ended ∧
      (c.apply (.step stopFirst)).isFinished = true := by
  change ((c.step? stopFirst).getD c).phase = .ended ∧
    ((c.step? stopFirst).getD c).isFinished = true
  rcases h.full hfull with ⟨hphase, hfinished⟩ | ⟨hphase, hlimit⟩
  · rw [step?_of_ended hphase]
    exact ⟨hphase, hfinished⟩
  · rw [step?_of_atLimit hphase hlimit]
    exact ⟨rfl, isFinished_iff.mpr (by simp)⟩

theorem signal_eq_done_iff : c.signal = .done ↔ c.isFinished = true := by
  unfold signal
  cases c.isFinished <;> cases c.hasEnded <;> simp

theorem signal_eq_dropped (hended : c.phase = .ended) (hnever : c.isFinished = false) :
    c.signal = .dropped := by
  simp [signal, hasEnded, hended, hnever]

theorem Quota.signal_eq_pending_iff (h : c.Quota n) :
    c.signal = .pending ↔ c.phase ≠ .ended := by
  by_cases hfinished : c.isFinished = true
  · simp [signal, hfinished, (h.signals hfinished).1]
  · simp [signal, hasEnded, hfinished]

theorem Quota.signal_of_waiting (h : c.Quota n) {stopFirst : Bool}
    (hwaits : c.step? stopFirst = none) : c.signal = .done ↔ c.pushes.length = n := by
  rw [signal_eq_done_iff]
  refine ⟨h.filled, fun hfull => ?_⟩
  rcases h.full hfull with ⟨-, hfinished⟩ | ⟨hphase, hlimit⟩
  · exact hfinished
  · rw [step?_of_atLimit hphase hlimit] at hwaits
    cases hwaits

end

/-- A connection with a limit takes no message beyond it. It signals when all of them are in its
buffer, and then does nothing but close; however else it ends, it does so without a signal. -/
theorem run_keeps_to_limit {settings : ConnectionSettings} {endpoint : String}
    {feed : List Arrival} {plan : List DialOutcome} {c₀ : Connection} {n : Nat}
    (hlimit : settings.messageCount = some n)
    (hstart : start settings endpoint feed plan = .ok c₀) (events : List Event) :
    let c := c₀.run events
    c.received = (bodies c.taken).length ∧ (bodies c.taken).length ≤ n ∧
    (c.signal = .pending ↔ c.phase ≠ .ended) ∧
    (c.signal = .done → c.pushes.length = n) ∧
    (∀ stopFirst, c.step? stopFirst = none → (c.signal = .done ↔ c.pushes.length = n)) ∧
    (c.pushes.length = n → ∀ later,
      let d := c.run later
      d.taken = c.taken ∧ d.feed = c.feed ++ fedBy later ∧ d.dials = c.dials ∧
      d.pushes = c.pushes ∧
      ∀ stopFirst,
        let e := d.apply (.step stopFirst)
        e.taken = c.taken ∧ e.dials = c.dials ∧ e.state = .closed ∧ linkOpen e.acts = false ∧
          e.signal = .done) ∧
    (c.phase = .ended → c.signal ≠ .done →
      c.signal = .dropped ∧ c.pushes.length < n ∧ c.CutShort) ∧
    (.error .closed ∈ c.taken → c.signal = .dropped) ∧
    (∀ body, c.Interrupted body → c.signal = .dropped) := by
  intro c
  have h : c.Quota n := (quota_start hlimit hstart).run events
  have hledger : c.Ledger (feed ++ fedBy events) := (ledger_start hstart).run events
  refine ⟨hledger.received_eq, ?_, h.signal_eq_pending_iff, ?_, fun _ => h.signal_of_waiting,
    fun hfull later => ?_, fun hended hundone => ?_, fun hclosed => ?_,
    fun body hbody => ?_⟩
  · rw [← hledger.received_eq]
    exact h.received_le
  · exact fun hdone => h.filled (signal_eq_done_iff.mp hdone)
  · obtain ⟨htaken, hdials, hpushes⟩ := h.run_of_full hfull later
    have hfeed := (hledger.run later).taken_feed
    rw [htaken, ← hledger.taken_feed, List.append_assoc] at hfeed
    refine ⟨htaken, List.append_cancel_left hfeed, hdials, hpushes, fun stopFirst => ?_⟩
    -- What one more step leads to is read off the whole run, where an end always closes the link.
    have hstep : (c.run later).apply (.step stopFirst) = c.run (later ++ [.step stopFirst]) :=
      (run_concat c later _).symm
    have hwhole : c.run (later ++ [.step stopFirst]) =
        c₀.run (events ++ (later ++ [.step stopFirst])) := List.foldl_append.symm
    have hlater : (c.run later).pushes.length = n := by rw [hpushes, hfull]
    obtain ⟨hended, hfinished⟩ := (h.run later).step_of_full hlater stopFirst
    obtain ⟨htaken', hdials', -⟩ := h.run_of_full hfull (later ++ [.step stopFirst])
    rw [hstep] at hended hfinished ⊢
    rw [hwhole] at hended
    obtain ⟨hclosed, hlink⟩ := closed_of_ended hstart hended
    rw [← hwhole] at hclosed hlink
    exact ⟨htaken', hdials', hclosed, hlink, signal_eq_done_iff.mpr hfinished⟩
  · have hnever : c.isFinished = false := by
      rw [Bool.eq_false_iff]
      exact fun hfinished => hundone (signal_eq_done_iff.mpr hfinished)
    refine ⟨signal_eq_dropped hended hnever, h.unfilled (by simp [hended]) hnever,
      h.cause hended hnever⟩
  · obtain ⟨hended, hnever⟩ := h.closed hclosed
    exact signal_eq_dropped hended hnever
  · exact signal_eq_dropped hbody.ended (h.signals.isFinished_of_interrupted hbody)

/-- The second of two bodies waits on a full buffer. A stop finds it there; once there is room for
it the peer's close is not looked at any more. -/
theorem run_keeps_to_limit_of_full_buffer :
    ∃ c₀, start ⟨0, .collectd, 1, .ofSeconds 2, some 2⟩ "broker/telemetry"
        [.ok [1], .ok [2], .error .closed] [] = .ok c₀ ∧
      (let c := c₀.run [.step true, .step true, .step true, .stop, .step true]
       c.signal = .dropped ∧ c.pushes.length < 2 ∧ c.CutShort) ∧
      let c := c₀.run [.step true, .step true, .step true, .receive, .step true]
      c.feed = [.error .closed] ∧ (c.apply (.step true)).taken = [.ok [1], .ok [2]] ∧
        (c.apply (.step true)).signal = .done := by
  refine ⟨_, rfl, ?_, ?_⟩
  · have hstart : start ⟨0, .collectd, 1, .ofSeconds 2, some 2⟩ "broker/telemetry"
      [.ok [1], .ok [2], .error .closed] [] = .ok _ := rfl
    have h := run_keeps_to_limit rfl hstart [.step true, .step true, .step true, .stop, .step true]
    exact h.2.2.2.2.2.2.1 rfl (by decide)
  · have hstart : start ⟨0, .collectd, 1, .ofSeconds 2, some 2⟩ "broker/telemetry"
      [.ok [1], .ok [2], .error .closed] [] = .ok _ := rfl
    have h := run_keeps_to_limit rfl hstart
      [.step true, .step true, .step true, .receive, .step true]
    obtain ⟨-, -, -, -, hlast⟩ := h.2.2.2.2.2.1 rfl []
    obtain ⟨htaken, -, -, -, hdone⟩ := hlast true
    exact ⟨rfl, htaken, hdone⟩

end ScrapeBridge.Connection
