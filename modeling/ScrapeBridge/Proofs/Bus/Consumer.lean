import ScrapeBridge.Proofs.Bus.Delivery

namespace ScrapeBridge.Connection

def Event.isOutside : Event → Bool
  | receive => false
  | dropConsumer => false
  | _ => true

/-- A signal that every message has been taken is the last thing that a task does. -/
def Signals (c : Connection) : Prop :=
  c.isFinished = true → c.phase = .ended ∧ ∃ past, c.acts = past ++ [.finished]

/-- A connection with an attentive consumer. -/
structure Kept (c : Connection) : Prop where
  ledger : ∃ arrivals, c.Ledger arrivals
  attended : c.consumerGone = false
  signals : c.Signals

/-- What a connection has become while its consumer did nothing. -/
structure Follows (c d : Connection) : Prop where
  kept : d.Kept
  settings_eq : d.settings = c.settings
  endpoint_eq : d.endpoint = c.endpoint
  consumed_eq : d.consumed = c.consumed
  ended : c.phase = .ended → d.phase = .ended ∧ d.buffer = c.buffer

section

variable {c d : Connection}

theorem Kept.follows_self (h : c.Kept) : c.Follows c where
  kept := h
  settings_eq := rfl
  endpoint_eq := rfl
  consumed_eq := rfl
  ended := fun hended => ⟨hended, rfl⟩

theorem signals_finish (c : Connection) (drained : Bool) (h : c.isFinished = false) :
    (c.finish drained).Signals := by
  intro hfinished
  unfold isFinished at h hfinished
  cases drained with
  | false => simp [h] at hfinished
  | true => exact ⟨rfl, c.acts ++ [.closedLink, .entered .closed], by simp⟩

theorem Signals.isFinished_of_move (h : c.Signals) (hmove : c.Move d) : c.isFinished = false := by
  rw [Bool.eq_false_iff]
  exact fun hfinished => hmove.not_ended (h hfinished).1

theorem Signals.move (h : c.Signals) (hmove : c.Move d) : d.Signals := by
  have hnever := h.isFinished_of_move hmove
  cases hmove with
  | drained hphase hlimit => exact signals_finish c true hnever
  | stopped hphase hstopping => exact signals_finish c false hnever
  | abandoned hphase hconsumer => exact signals_finish c false hnever
  | dial hphase =>
    intro hfinished
    unfold isFinished at hnever hfinished
    generalize c.plan.headD .opened = outcome at hfinished
    cases outcome <;> simp [hnever, dialActs] at hfinished
  | _ =>
    intro hfinished
    unfold isFinished at hnever hfinished
    simp [hnever] at hfinished

theorem Signals.isFinished_of_interrupted (h : c.Signals) {body : Body}
    (hbody : c.Interrupted body) : c.isFinished = false := by
  rw [Bool.eq_false_iff]
  intro hfinished
  obtain ⟨past, hpast⟩ := hbody.last
  obtain ⟨-, past', hpast'⟩ := h hfinished
  have hlast := congrArg List.getLast? (hpast.symm.trans hpast')
  simp at hlast

theorem Kept.follows_move (h : c.Kept) (hmove : c.Move d) : c.Follows d := by
  obtain ⟨arrivals, hledger⟩ := h.ledger
  have hunchanged := hmove.unchanged
  have hgone : d.consumerGone = false := hunchanged.consumerGone_eq.trans h.attended
  exact {
    kept := ⟨⟨arrivals, hledger.move hmove⟩, hgone, h.signals.move hmove⟩
    settings_eq := hunchanged.settings_eq
    endpoint_eq := hunchanged.endpoint_eq
    consumed_eq := hunchanged.consumed_eq
    ended := fun hended => absurd hended hmove.not_ended }

theorem Kept.follows_apply (h : c.Kept) {e : Event} (he : e.isOutside = true) :
    c.Follows (c.apply e) := by
  obtain ⟨arrivals, hledger⟩ := h.ledger
  have hafter : ∃ arrivals, (c.apply e).Ledger arrivals := ⟨_, hledger.after e⟩
  cases e with
  | receive => cases he
  | dropConsumer => cases he
  | step stopFirst =>
    change c.Follows ((c.step? stopFirst).getD c)
    cases hstep : c.step? stopFirst with
    | none => exact h.follows_self
    | some d => exact h.follows_move (move_of_step? hstep)
  | _ => exact ⟨⟨hafter, h.attended, h.signals⟩, rfl, rfl, rfl, fun hended => ⟨hended, rfl⟩⟩

theorem Kept.receive (h : c.Kept) {body : Body} (hreceive : c.receive? = some (body, d)) :
    d.Kept ∧ d.consumed = c.consumed ++ [body] ∧ d.settings = c.settings ∧
      d.endpoint = c.endpoint := by
  obtain ⟨arrivals, hledger⟩ := h.ledger
  have hafter : (c.apply .receive).Ledger _ := hledger.after .receive
  have hd : c.apply .receive = d := by simp [apply, hreceive]
  rw [hd] at hafter
  unfold receive? at hreceive
  split at hreceive <;> cases hreceive
  exact ⟨⟨⟨_, hafter⟩, h.attended, h.signals⟩, rfl, rfl, rfl⟩

theorem Kept.follows_read (h : c.Kept) (n : Nat) : c.Follows { c with reportsRead := n } := by
  obtain ⟨arrivals, hledger⟩ := h.ledger
  have hsame : { c with reportsRead := n }.Ledger (arrivals ++ []) :=
    hledger.around (d := { c with reportsRead := n }) rfl rfl rfl rfl Nat.le.refl id id
      (fun _ => rfl) (List.append_nil _).symm
  exact ⟨⟨⟨_, hsame⟩, h.attended, h.signals⟩, rfl, rfl, rfl, fun hended => ⟨hended, rfl⟩⟩

theorem Kept.pushes_eq (h : c.Kept) : c.pushes = c.consumed ++ c.buffer := by
  obtain ⟨arrivals, hledger⟩ := h.ledger
  exact hledger.pushes_eq h.attended

/-- Of all bodies that it has received at most one has not got into the buffer, and none if it has
signalled. -/
theorem Kept.received_of_ended (h : c.Kept) (hended : c.phase = .ended) :
    c.pushes.length ≤ c.received ∧
      c.received ≤ c.pushes.length + if c.isFinished then 0 else 1 := by
  obtain ⟨arrivals, hledger⟩ := h.ledger
  have hreceived := hledger.received_eq
  rcases hledger.accounted with hacc | ⟨body, hinterrupted, hacc⟩
  · rw [hacc, inHand, hended, List.append_nil] at hreceived
    omega
  · rw [hacc, List.length_append, List.length_singleton] at hreceived
    rw [h.signals.isFinished_of_interrupted hinterrupted]
    simp only [Bool.false_eq_true, if_false]
    omega

end

theorem kept_start {settings : ConnectionSettings} {endpoint : String} {feed : List Arrival}
    {plan : List DialOutcome} {c : Connection}
    (hstart : start settings endpoint feed plan = .ok c) : c.Kept ∧ c.consumed = [] := by
  have hledger := ledger_start hstart
  unfold start at hstart
  split at hstart
  · cases hstart
  · split at hstart <;> cases hstart
    exact ⟨⟨⟨feed, hledger⟩, rfl, fun hfinished => by cases hfinished⟩, rfl⟩

end ScrapeBridge.Connection
