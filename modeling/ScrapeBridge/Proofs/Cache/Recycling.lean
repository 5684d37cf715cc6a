import Mathlib.Data.List.Induction
import Mathlib.Data.List.Perm.Subperm
import ScrapeBridge.Proofs.Cache.Intake
import ScrapeBridge.Proofs.Cache.Pool

namespace ScrapeBridge.Intake

open Cache (Buffer Pool)

def buffers (i : Intake) : List Buffer := i.queue ++ i.waiting.map (·.2)

def lent (i : Intake) : List Nat := (i.queue ++ i.waiting.map (·.2)).map (·.id)

def Event.isOfPool : Event → Bool
  | borrow => true
  | donate _ => true
  | _ => false

theorem run_concat (i : Intake) (events : List Event) (e : Event) :
    i.run (events ++ [e]) = (i.run events).apply e := by
  simp [run]

def enter (i : Intake) (b : Buffer) : Intake :=
  let j := { i with tickets := i.tickets + 1 }
  if i.isClosed then j.refuse i.tickets
  else if i.waiting.isEmpty ∧ i.queue.length < capacity then j.accept i.tickets b
  else { j with waiting := i.waiting ++ [(i.tickets, b)] }

theorem put_eq_enter (i : Intake) (s : Sample) :
    i.put s = { i with pool := i.pool.acquire.2 }.enter (i.pool.acquire.1.put s) := rfl

section

variable {i j : Intake} {now : Int}

theorem buffers_accept (ticket : Nat) (b : Buffer) :
    (i.accept ticket b).buffers.Perm (b :: i.buffers) := by
  simp only [buffers, accept, List.append_assoc]
  exact List.perm_middle

theorem pool_enter (b : Buffer) : (i.enter b).pool = i.pool := by
  unfold enter
  split
  · rfl
  · split <;> rfl

theorem buffers_enter (b : Buffer) : (i.enter b).buffers.Subperm (b :: i.buffers) := by
  unfold enter
  split
  · exact (List.sublist_cons_self b i.buffers).subperm
  · split
    · exact (buffers_accept i.tickets b).subperm
    · simp only [buffers, List.map_append, ← List.append_assoc]
      exact (List.perm_append_singleton _ _).subperm

/-- A move leaves the pool as it is and brings no buffer in, or it gives one back. -/
theorem Move.buffers_cases (hmove : i.Move now j) :
    (j.pool = i.pool ∧ j.buffers.Subperm i.buffers) ∨
      ∃ b, j.pool = i.pool.release b ∧ i.buffers = b :: j.buffers := by
  cases hmove with
  | close hworker hstopping =>
    exact .inl ⟨rfl, ((List.Sublist.refl i.queue).append (List.nil_sublist _)).subperm⟩
  | @merge b queue hworker hqueue =>
    refine .inr ⟨b, rfl, ?_⟩
    rw [buffers, hqueue]
    rfl
  | exit hworker hqueue => exact .inl ⟨rfl, .refl _⟩
  | @letIn ticket b waiting hwaiting hroom =>
    refine .inl ⟨rfl, ((buffers_accept ticket b).trans ?_).subperm⟩
    simp only [buffers, hwaiting, List.map_cons]
    exact List.perm_middle.symm

theorem lends_put (h : i.pool.Lends i.lent) (s : Sample) :
    (i.put s).pool.Lends (i.put s).lent := by
  have hacquire : i.pool.acquire.2.Lends ((i.pool.acquire.1.put s :: i.buffers).map (·.id)) :=
    h.acquire.2
  rw [put_eq_enter, pool_enter]
  exact hacquire.of_subperm (buffers_enter _)

theorem Move.lends (hmove : i.Move now j) (h : i.pool.Lends i.lent) : j.pool.Lends j.lent := by
  rcases hmove.buffers_cases with ⟨hpool, hsub⟩ | ⟨b, hpool, hbuffers⟩
  · rw [hpool]
    exact Pool.Lends.of_subperm h hsub
  · have hlends : i.pool.Lends (i.buffers.map (·.id)) := h
    rw [hbuffers] at hlends
    rw [hpool]
    exact Pool.Lends.release hlends

end

/-- An intake without its pool, and with buffers that are all alike. -/
def bare (i : Intake) : Intake :=
  { i with
    pool := .create 0
    queue := i.queue.map fun b => ⟨0, b.sample⟩
    waiting := i.waiting.map fun w => (w.1, ⟨0, w.2.sample⟩) }

section

variable (i : Intake)

theorem bare_bare : i.bare.bare = i.bare := by simp [bare, Function.comp_def]

theorem bare_accept (ticket : Nat) (b : Buffer) :
    (i.accept ticket b).bare = i.bare.accept ticket ⟨0, b.sample⟩ := by
  simp [bare, accept]

theorem bare_ingest (b : Buffer) (now : Int) :
    (i.ingest b now).bare = (i.bare.ingest ⟨0, b.sample⟩ now).bare := by
  simp [bare, ingest, Function.comp_def]

theorem bare_enter (b : Buffer) : (i.enter b).bare = i.bare.enter ⟨0, b.sample⟩ := by
  have hclosed : i.bare.isClosed = i.isClosed := rfl
  have hwaiting : i.bare.waiting.isEmpty = i.waiting.isEmpty := List.isEmpty_map
  have hqueue : i.bare.queue.length = i.queue.length := List.length_map _
  unfold enter
  rw [hclosed, hwaiting, hqueue]
  split
  · rfl
  · split
    · exact bare_accept _ _ _
    · simp [bare]

theorem bare_put (s : Sample) : (i.put s).bare = i.bare.enter ⟨0, some s⟩ := by
  rw [put_eq_enter, bare_enter]
  rfl

theorem bare_letIn? : (i.letIn?.getD i).bare = (i.bare.letIn?.getD i.bare).bare := by
  have hqueue : i.bare.queue.length = i.queue.length := List.length_map _
  cases hwaiting : i.waiting with
  | nil =>
    have hbare : i.bare.waiting = [] := by simp [bare, hwaiting]
    simp [letIn?, hwaiting, hbare, bare_bare]
  | cons w waiting =>
    obtain ⟨ticket, b⟩ := w
    have hbare : i.bare.waiting =
        (ticket, ⟨0, b.sample⟩) :: { i with waiting }.bare.waiting := by simp [bare, hwaiting]
    simp only [letIn?, hwaiting, hbare, hqueue]
    split
    · calc ({ i with waiting }.accept ticket b).bare
          = { i with waiting }.bare.accept ticket ⟨0, b.sample⟩ := bare_accept _ _ _
        _ = ({ i with waiting }.bare.accept ticket ⟨0, b.sample⟩).bare := by
          rw [bare_accept, bare_bare]
    · exact (bare_bare i).symm

theorem bare_close : i.close.bare = i.bare.close.bare := by
  simp [bare, close, Function.comp_def]

theorem bare_work? (now : Int) (stopFirst : Bool) :
    ((i.work? now stopFirst).getD i).bare = ((i.bare.work? now stopFirst).getD i.bare).bare := by
  have hworker : i.bare.worker = i.worker := rfl
  have hstopping : i.bare.stopping = i.stopping := rfl
  have hsame : i.bare = i.bare.bare := (bare_bare i).symm
  cases hqueue : i.queue with
  | nil =>
    have hbare : i.bare.queue = [] := by simp [bare, hqueue]
    cases hw : i.worker
    all_goals simp only [work?, hworker, hstopping, hw, hqueue, hbare]
    case running =>
      split
      · exact i.bare_close
      · exact hsame
    case draining => simp [bare, hqueue]
    all_goals exact hsame
  | cons b queue =>
    have hbare : i.bare.queue = ⟨0, b.sample⟩ :: { i with queue }.bare.queue := by
      simp [bare, hqueue]
    cases hw : i.worker
    all_goals simp only [work?, hworker, hstopping, hw, hqueue, hbare]
    case running =>
      split
      · exact i.bare_close
      · exact bare_ingest { i with queue, worker := .running } b now
    case draining => exact bare_ingest { i with queue, worker := .draining } b now
    all_goals exact hsame

theorem bare_start : (i.start.getD i).bare = (i.bare.start.getD i.bare).bare := by
  have hworker : i.bare.worker = i.worker := rfl
  unfold start
  rw [hworker]
  split
  · simp [bare, Function.comp_def]
  · exact (bare_bare i).symm

theorem bare_apply (e : Event) : (i.apply e).bare = (i.bare.apply e).bare := by
  cases e with
  | put s =>
    change (i.put s).bare = (i.bare.put s).bare
    rw [bare_put, bare_put, bare_bare]
  | start => exact i.bare_start
  | stop => simp [apply, stop, bare, Function.comp_def]
  | work now stopFirst => exact i.bare_work? now stopFirst
  | letIn => exact i.bare_letIn?
  | flush now useTimestamp => simp [apply, bare, Function.comp_def]
  | borrow => exact (bare_bare i).symm
  | donate sample => exact (bare_bare i).symm

theorem bare_apply_of_isOfPool {e : Event} (h : e.isOfPool = true) : (i.apply e).bare = i.bare := by
  cases e with
  | borrow => rfl
  | donate sample => rfl
  | _ => cases h

theorem bare_run (events : List Event) : (i.run events).bare = (i.bare.run events).bare := by
  induction events using List.reverseRecOn with
  | nil => exact (bare_bare i).symm
  | append_singleton events e ih =>
    rw [run_concat, run_concat, bare_apply, ih, ← bare_apply]

end

/-- What others do with the pool makes no difference. -/
theorem bare_run_filter (i : Intake) (events : List Event) :
    (i.run events).bare = (i.run (events.filter (!·.isOfPool))).bare := by
  induction events generalizing i with
  | nil => rfl
  | cons e events ih =>
    change ((i.apply e).run events).bare = _
    rw [ih]
    cases he : e.isOfPool with
    | true =>
      rw [bare_run, bare_apply_of_isOfPool i he, ← bare_run, List.filter_cons_of_neg (by simp [he])]
    | false =>
      rw [List.filter_cons_of_pos (by simp [he])]
      rfl

theorem bare_run_congr {i j : Intake} (h : j.bare = i.bare) {events others : List Event}
    (hevents : others.filter (!·.isOfPool) = events.filter (!·.isOfPool)) :
    (j.run others).bare = (i.run events).bare := by
  rw [bare_run_filter, hevents, bare_run, h, ← bare_run, ← bare_run_filter]

end ScrapeBridge.Intake
