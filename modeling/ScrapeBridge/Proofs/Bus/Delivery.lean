import Mathlib.Data.List.Induction
import ScrapeBridge.Proofs.Bus.Ledger

namespace ScrapeBridge.Connection

theorem fedBy_concat (events : List Event) (e : Event) :
    fedBy (events ++ [e]) = fedBy events ++ fedBy [e] := by
  simp [fedBy]

theorem run_concat (c : Connection) (events : List Event) (e : Event) :
    c.run (events ++ [e]) = (c.run events).apply e := by
  simp [run]

theorem run_preserves {α : Type} (f : Connection → α) {c : Connection}
    (hf : ∀ d e, f d = f c → f (d.apply e) = f c) (events : List Event) :
    f (c.run events) = f c := by
  induction events using List.reverseRecOn with
  | nil => rfl
  | append_singleton events e ih =>
    rw [run_concat]
    exact hf _ e ih

theorem settings_apply (c : Connection) (e : Event) : (c.apply e).settings = c.settings := by
  cases e with
  | receive => cases hbuffer : c.buffer <;> simp [apply, receive?, hbuffer]
  | step stopFirst =>
    change ((c.step? stopFirst).getD c).settings = c.settings
    cases hstep : c.step? stopFirst with
    | none => rfl
    | some d => exact (move_of_step? hstep).unchanged.settings_eq
  | _ => rfl

theorem settings_run (c : Connection) (events : List Event) :
    (c.run events).settings = c.settings :=
  run_preserves (·.settings) (fun d e h => (settings_apply d e).trans h) events

theorem history_apply_of_ended {c : Connection} (h : c.phase = .ended) (e : Event) :
    (c.apply e).phase = .ended ∧ (c.apply e).history = c.history := by
  cases e with
  | receive => cases hbuffer : c.buffer <;> simp [apply, receive?, hbuffer, h]
  | step stopFirst => simp [apply, step?_of_ended h, h]
  | _ => exact ⟨h, rfl⟩

theorem history_run_of_ended {c : Connection} (h : c.phase = .ended) (events : List Event) :
    (c.run events).phase = .ended ∧ (c.run events).history = c.history := by
  have hkeeps : ∀ (d : Connection) (e : Event), (d.phase, d.history) = (c.phase, c.history) →
      ((d.apply e).phase, (d.apply e).history) = (c.phase, c.history) := by
    intro d e hd
    obtain ⟨hphase, hhistory⟩ := Prod.mk.inj hd
    obtain ⟨hphase', hhistory'⟩ := history_apply_of_ended (hphase.trans h) e
    rw [hphase', hhistory', hhistory, h]
  have hrun := run_preserves (fun d => (d.phase, d.history)) hkeeps events
  obtain ⟨hphase, hhistory⟩ := Prod.mk.inj hrun
  exact ⟨hphase.trans h, hhistory⟩

section

variable {settings : ConnectionSettings} {endpoint : String} {feed : List Arrival}
  {plan : List DialOutcome} {c : Connection}

theorem settings_start (hstart : start settings endpoint feed plan = .ok c) :
    c.settings = settings := by
  unfold start at hstart
  split at hstart
  · cases hstart
  · split at hstart <;> cases hstart
    rfl

theorem ledger_start (hstart : start settings endpoint feed plan = .ok c) : c.Ledger feed := by
  unfold start at hstart
  split at hstart
  · cases hstart
  · split at hstart <;> cases hstart
    exact ⟨rfl, rfl, Nat.zero_le _, fun _ => rfl, .inl rfl, fun body hb => by cases hb⟩

end

theorem Ledger.run {c : Connection} {arrivals : List Arrival} (h : c.Ledger arrivals)
    (events : List Event) : (c.run events).Ledger (arrivals ++ fedBy events) := by
  induction events using List.reverseRecOn with
  | nil =>
    rw [show fedBy [] = [] from rfl, List.append_nil]
    exact h
  | append_singleton events e ih =>
    rw [run_concat, fedBy_concat, ← List.append_assoc]
    exact ih.after e

/-- Nothing that a connection takes from its links is lost, doubled or put out of order on the way
to its consumer, save the one body that a stop finds being pushed. -/
theorem run_delivers_taken {settings : ConnectionSettings} {endpoint : String}
    {feed : List Arrival} {plan : List DialOutcome} {c₀ : Connection}
    (hstart : start settings endpoint feed plan = .ok c₀) (events : List Event) :
    let c := c₀.run events
    c.taken ++ c.feed = feed ++ fedBy events ∧
    c.received = (bodies c.taken).length ∧
    c.buffer.length ≤ max settings.bufferSize 1 ∧
    (c.consumerGone = false →
      c.consumed ++ c.buffer ++ c.inHand = bodies c.taken ∨
        ∃ body, c.stopping = true ∧ c.Interrupted body ∧
          c.consumed ++ c.buffer ++ [body] = bodies c.taken) ∧
    (c.phase = .ended → ∀ later, (c.run later).acts = c.acts) := by
  intro c
  have h : c.Ledger (feed ++ fedBy events) := (ledger_start hstart).run events
  refine ⟨h.taken_feed, h.received_eq, ?_, ?_, ?_⟩
  · have hsettings : c.settings = settings :=
      (settings_run c₀ events).trans (settings_start hstart)
    rw [← hsettings]
    exact h.room
  · intro hhere
    rw [← h.pushes_eq hhere]
    rcases h.accounted with hacc | ⟨body, hinterrupted, hacc⟩
    · exact .inl hacc.symm
    · have hstopping := hinterrupted.cause.resolve_right (by simp [hhere])
      exact .inr ⟨body, hstopping, hinterrupted, hacc.symm⟩
  · intro hended later
    rw [Connection.acts, (history_run_of_ended hended later).2, Connection.acts]

/-- A stop finds the second body waiting for room. -/
theorem run_delivers_taken_of_full_buffer :
    ∃ c₀, start ⟨0, .collectd, 1, .ofSeconds 2, none⟩ "broker/telemetry" [.ok [1], .ok [2]] [] =
        .ok c₀ ∧
      let c := c₀.run [.step true, .step true, .step true, .stop, .step true]
      ∃ body, c.stopping = true ∧ c.Interrupted body ∧
        c.consumed ++ c.buffer ++ [body] = bodies c.taken := by
  refine ⟨_, rfl, ?_⟩
  have hstart : start ⟨0, .collectd, 1, .ofSeconds 2, none⟩ "broker/telemetry"
    [.ok [1], .ok [2]] [] = .ok _ := rfl
  have h := run_delivers_taken hstart [.step true, .step true, .step true, .stop, .step true]
  exact (h.2.2.2.1 rfl).resolve_left (by decide)

end ScrapeBridge.Connection
