import Mathlib.Data.List.Basic
import ScrapeBridge.Proofs.Bus.Move

namespace ScrapeBridge.Connection

namespace Act

def arrival? : Act → Option Arrival
  | took a => some a
  | _ => none

def push? : Act → Option Body
  | pushed body => some body
  | _ => none

end Act

/-- All that the task has taken from its links. -/
def taken (c : Connection) : List Arrival := c.acts.filterMap (·.arrival?)

/-- All bodies that the task has put into the buffer. -/
def pushes (c : Connection) : List Body := c.acts.filterMap (·.push?)

def bodies (arrivals : List Arrival) : List Body := arrivals.filterMap (·.toOption)

/-- The body that waits for room in the buffer. -/
def inHand (c : Connection) : List Body :=
  match c.phase with
  | .pushing body => [body]
  | _ => []

/-- The task has ended with a body in its hand. -/
structure Interrupted (c : Connection) (body : Body) : Prop where
  ended : c.phase = .ended
  cause : c.stopping = true ∨ c.consumerGone = true
  last : ∃ past, c.acts = past ++ [.took (.ok body), .closedLink, .entered .closed]

def fedBy (events : List Event) : List Arrival :=
  events.flatMap fun
    | .feed arrivals => arrivals
    | _ => []

theorem bodies_append (l r : List Arrival) : bodies (l ++ r) = bodies l ++ bodies r :=
  List.filterMap_append

theorem inHand_of_pushing {c : Connection} {body : Body} (h : c.phase = .pushing body) :
    c.inHand = [body] := by
  rw [inHand, h]

theorem inHand_of_not_pushing {c : Connection} (h : ∀ body, c.phase ≠ .pushing body) :
    c.inHand = [] := by
  unfold inHand
  split
  case h_1 body hphase => exact absurd hphase (h body)
  case h_2 => rfl

/-- What the task has taken and what it has done with it. -/
structure Ledger (c : Connection) (arrivals : List Arrival) : Prop where
  taken_feed : c.taken ++ c.feed = arrivals
  received_eq : c.received = (bodies c.taken).length
  room : c.buffer.length ≤ c.capacity
  pushes_eq : c.consumerGone = false → c.pushes = c.consumed ++ c.buffer
  accounted : bodies c.taken = c.pushes ++ c.inHand ∨
    ∃ body, c.Interrupted body ∧ bodies c.taken = c.pushes ++ [body]
  holding : ∀ body, c.phase = .pushing body → ∃ past, c.acts = past ++ [.took (.ok body)]

section

variable {c d : Connection} {arrivals : List Arrival}

theorem Ledger.accounted_of_not_ended (h : c.Ledger arrivals) (hphase : c.phase ≠ .ended) :
    bodies c.taken = c.pushes ++ c.inHand := by
  rcases h.accounted with hacc | ⟨body, hinterrupted, -⟩
  · exact hacc
  · exact absurd hinterrupted.ended hphase

theorem Ledger.quiet (h : c.Ledger arrivals) (hphase : c.phase ≠ .ended)
    (hc : ∀ body, c.phase ≠ .pushing body) (hd : ∀ body, d.phase ≠ .pushing body)
    (acts : List Act) (hacts : d.acts = c.acts ++ acts) (hpush : acts.filterMap (·.push?) = [])
    (hbodies : bodies (acts.filterMap (·.arrival?)) = [])
    (hfeed : c.feed = acts.filterMap (·.arrival?) ++ d.feed) (hreceived : d.received = c.received)
    (hbuffer : d.buffer = c.buffer) (hcapacity : d.capacity = c.capacity)
    (hconsumed : d.consumed = c.consumed) (hgone : d.consumerGone = c.consumerGone) :
    d.Ledger arrivals := by
  have htaken : d.taken = c.taken ++ acts.filterMap (·.arrival?) := by simp [taken, hacts]
  have htakenBodies : bodies d.taken = bodies c.taken := by
    rw [htaken, bodies_append, hbodies, List.append_nil]
  have hpushes : d.pushes = c.pushes := by simp [pushes, hacts, hpush]
  refine ⟨?_, ?_, ?_, ?_, .inl ?_, fun body hb => absurd hb (hd body)⟩
  · rw [← h.taken_feed, hfeed, htaken, List.append_assoc]
  · rw [hreceived, htakenBodies, h.received_eq]
  · rw [hbuffer, hcapacity]
    exact h.room
  · rw [hgone, hpushes, hconsumed, hbuffer]
    exact h.pushes_eq
  · rw [htakenBodies, hpushes, h.accounted_of_not_ended hphase, inHand_of_not_pushing hc,
      inHand_of_not_pushing hd]

theorem Ledger.finish (h : c.Ledger arrivals) (hphase : c.phase ≠ .ended)
    (hc : ∀ body, c.phase ≠ .pushing body) (drained : Bool) :
    (c.finish drained).Ledger arrivals := by
  refine h.quiet hphase hc (by simp [Connection.finish]) _ (acts_finish c drained) ?_ ?_ ?_
    rfl rfl rfl rfl rfl
  all_goals cases drained <;> rfl

theorem Ledger.interrupt (h : c.Ledger arrivals) {body : Body} (hphase : c.phase = .pushing body)
    (hcause : c.stopping = true ∨ c.consumerGone = true) : (c.finish false).Ledger arrivals := by
  have htaken : (c.finish false).taken = c.taken := by simp [taken, Act.arrival?]
  have hpushes : (c.finish false).pushes = c.pushes := by simp [pushes, Act.push?]
  have hacc := h.accounted_of_not_ended (by simp [hphase])
  obtain ⟨past, hpast⟩ := h.holding body hphase
  refine ⟨?_, ?_, h.room, ?_, .inr ⟨body, ⟨rfl, hcause, past, ?_⟩, ?_⟩, fun body hb => by cases hb⟩
  · rw [htaken]
    exact h.taken_feed
  · rw [htaken]
    exact h.received_eq
  · rw [hpushes]
    exact h.pushes_eq
  · simp [hpast]
  · rw [htaken, hpushes, hacc, inHand_of_pushing hphase]

theorem Ledger.body (h : c.Ledger arrivals) {body : Body} {feed : List Arrival}
    (hphase : c.phase = .receiving) (hfeed : c.feed = .ok body :: feed) :
    (c.afterBody body feed).Ledger arrivals := by
  have htaken : (c.afterBody body feed).taken = c.taken ++ [.ok body] := by
    simp [taken, Act.arrival?]
  have htakenBodies : bodies (c.afterBody body feed).taken = bodies c.taken ++ [body] := by
    rw [htaken, bodies_append]
    rfl
  have hpushes : (c.afterBody body feed).pushes = c.pushes := by simp [pushes, Act.push?]
  have hacc := h.accounted_of_not_ended (by simp [hphase])
  refine ⟨?_, ?_, h.room, ?_, .inl ?_, ?_⟩
  · rw [htaken, ← h.taken_feed, hfeed, List.append_assoc]
    rfl
  · rw [htakenBodies, List.length_append, ← h.received_eq]
    rfl
  · rw [hpushes]
    exact h.pushes_eq
  · rw [htakenBodies, hpushes, hacc, inHand_of_not_pushing (by simp [hphase]), List.append_nil]
    rfl
  · intro pushing hp
    cases hp
    exact ⟨c.acts, acts_afterBody c body feed⟩

theorem Ledger.push (h : c.Ledger arrivals) {body : Body} (hphase : c.phase = .pushing body)
    (hroom : c.buffer.length < c.capacity) : (c.afterPush body).Ledger arrivals := by
  have htaken : (c.afterPush body).taken = c.taken := by simp [taken, Act.arrival?]
  have hpushes : (c.afterPush body).pushes = c.pushes ++ [body] := by simp [pushes, Act.push?]
  have hacc := h.accounted_of_not_ended (by simp [hphase])
  refine ⟨?_, ?_, ?_, ?_, .inl ?_, fun body hb => by cases hb⟩
  · rw [htaken]
    exact h.taken_feed
  · rw [htaken]
    exact h.received_eq
  · have hlength : (c.afterPush body).buffer.length = c.buffer.length + 1 := List.length_append
    rw [hlength]
    exact hroom
  · intro hconsumer
    rw [hpushes, h.pushes_eq hconsumer, List.append_assoc]
    rfl
  · rw [htaken, hpushes, hacc, inHand_of_pushing hphase]
    exact (List.append_nil _).symm

theorem Ledger.move (h : c.Ledger arrivals) (hmove : c.Move d) : d.Ledger arrivals := by
  cases hmove with
  | drained hphase hlimit => exact h.finish (by simp [hphase]) (by simp [hphase]) true
  | stopped hphase hstopping =>
    by_cases hpushing : ∃ body, c.phase = .pushing body
    · obtain ⟨body, hpushing⟩ := hpushing
      exact h.interrupt hpushing (.inl hstopping)
    · exact h.finish hphase (not_exists.mp hpushing) false
  | abandoned hphase hconsumer => exact h.interrupt hphase (.inr hconsumer)
  | body hphase hlimit hfeed => exact h.body hphase hfeed
  | push hphase hconsumer hroom => exact h.push hphase hroom
  | closed hphase hlimit hfeed =>
    exact h.quiet (by simp [hphase]) (by simp [hphase]) (by simp [afterClose, Connection.finish]) _
      (acts_afterClose c _) rfl rfl hfeed rfl rfl rfl rfl rfl
  | fault hphase hlimit hfeed =>
    exact h.quiet (by simp [hphase]) (by simp [hphase]) (by simp [afterFault, backOff]) _
      (acts_afterFault c _ _) rfl rfl hfeed rfl rfl rfl rfl rfl
  | sleep hphase hnow =>
    exact h.quiet (by simp [hphase]) (by simp [hphase]) (by simp [afterSleep]) []
      (by simp) rfl rfl rfl rfl rfl rfl rfl rfl
  | dial hphase =>
    generalize c.plan.headD .opened = outcome
    refine h.quiet (by simp [hphase]) (by simp [hphase]) ?_ _
      (acts_afterDial c outcome) ?_ ?_ ?_ ?_ ?_ ?_ ?_ ?_
    all_goals
      cases outcome <;>
        simp [afterDial, Connection.dial, backOff, note, dialActs, Act.push?, Act.arrival?, bodies,
          capacity]

theorem Ledger.around (h : c.Ledger arrivals) (hhistory : d.history = c.history)
    (hphase : d.phase = c.phase) (hreceived : d.received = c.received)
    (hcapacity : d.capacity = c.capacity) (hbuffer : d.buffer.length ≤ c.buffer.length)
    (hstopping : c.stopping = true → d.stopping = true)
    (hgone : c.consumerGone = true → d.consumerGone = true)
    (hgoods : d.consumerGone = false → d.consumed ++ d.buffer = c.consumed ++ c.buffer)
    {fed : List Arrival} (hfeed : d.feed = c.feed ++ fed) : d.Ledger (arrivals ++ fed) := by
  have hacts : d.acts = c.acts := by rw [Connection.acts, hhistory, Connection.acts]
  have htaken : d.taken = c.taken := by rw [taken, hacts, taken]
  have hpushes : d.pushes = c.pushes := by rw [pushes, hacts, pushes]
  have hhand : d.inHand = c.inHand := by rw [inHand, hphase, inHand]
  refine ⟨?_, ?_, ?_, ?_, ?_, ?_⟩
  · rw [htaken, hfeed, ← List.append_assoc, h.taken_feed]
  · rw [hreceived, htaken, h.received_eq]
  · rw [hcapacity]
    exact Nat.le_trans hbuffer h.room
  · intro hd
    have hc : c.consumerGone = false := by
      rw [Bool.eq_false_iff]
      intro hc
      rw [hgone hc] at hd
      cases hd
    rw [hpushes, hgoods hd, h.pushes_eq hc]
  · rw [htaken, hpushes, hhand]
    refine h.accounted.imp id ?_
    rintro ⟨body, ⟨hended, hcause, hlast⟩, hbodies⟩
    refine ⟨body, ⟨hphase.trans hended, hcause.imp hstopping hgone, ?_⟩, hbodies⟩
    rwa [hacts]
  · rw [hphase, hacts]
    exact h.holding

theorem Ledger.after (h : c.Ledger arrivals) (e : Event) :
    (c.apply e).Ledger (arrivals ++ fedBy [e]) := by
  have hnothing : c.feed = c.feed ++ [] := (List.append_nil _).symm
  cases e with
  | feed fed =>
    exact h.around (d := c.apply (.feed fed)) rfl rfl rfl rfl Nat.le.refl id id (fun _ => rfl)
      (by simp [apply, fedBy])
  | plan outcomes =>
    exact h.around (d := c.apply (.plan outcomes)) rfl rfl rfl rfl Nat.le.refl id id
      (fun _ => rfl) hnothing
  | advance nanoseconds =>
    exact h.around (d := c.apply (.advance nanoseconds)) rfl rfl rfl rfl Nat.le.refl id id
      (fun _ => rfl) hnothing
  | stop =>
    exact h.around (d := c.apply .stop) rfl rfl rfl rfl Nat.le.refl (fun _ => rfl) id
      (fun _ => rfl) hnothing
  | dropConsumer =>
    exact h.around (d := c.apply .dropConsumer) rfl rfl rfl rfl (Nat.zero_le _) id (fun _ => rfl)
      (fun hhere => by simp [apply] at hhere) hnothing
  | receive =>
    cases hbuffer : c.buffer with
    | nil =>
      rw [show c.apply .receive = c by simp [apply, receive?, hbuffer]]
      exact h.around (d := c) rfl rfl rfl rfl Nat.le.refl id id (fun _ => rfl) hnothing
    | cons body buffer =>
      rw [show c.apply .receive = { c with buffer, consumed := c.consumed ++ [body] } by
        simp [apply, receive?, hbuffer]]
      exact h.around (d := { c with buffer, consumed := c.consumed ++ [body] }) rfl rfl rfl rfl
        (by simp [hbuffer]) id id (by simp [hbuffer]) hnothing
  | step stopFirst =>
    rw [show fedBy [.step stopFirst] = [] from rfl, List.append_nil]
    change ((c.step? stopFirst).getD c).Ledger arrivals
    cases hstep : c.step? stopFirst with
    | none => exact h
    | some d => exact h.move (move_of_step? hstep)

end

end ScrapeBridge.Connection
