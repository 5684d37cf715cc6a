import Mathlib.Data.List.Nodup
import ScrapeBridge.Proofs.Cache.Intake

namespace ScrapeBridge.Intake

open Cache (Buffer)

def Act.ticket? : Act → Option Nat
  | accepted ticket _ => some ticket
  | refused ticket => some ticket
  | merged _ => none

def answered (i : Intake) : List Nat := i.history.filterMap (·.ticket?)

def numbers (i : Intake) : List Nat := i.waiting.map (·.1) ++ i.answered

/-- Every put has a ticket of its own, and whoever waits has a sample. -/
structure Numbered (i : Intake) : Prop where
  nodup : i.numbers.Nodup
  lt : ∀ ticket ∈ i.numbers, ticket < i.tickets
  carried : ∀ w ∈ i.waiting, ∃ s, w.2.sample = some s

theorem numbered_create (seconds : Nat) : (create seconds).Numbered where
  nodup := List.nodup_nil
  lt := by intro ticket h; cases h
  carried := by intro w h; cases h

section

variable {i j : Intake} {now : Int}

theorem Numbered.of_perm (h : i.Numbered) (hperm : j.numbers.Perm i.numbers)
    (htickets : j.tickets = i.tickets) (hcarried : ∀ w ∈ j.waiting, ∃ s, w.2.sample = some s) :
    j.Numbered where
  nodup := hperm.nodup_iff.mpr h.nodup
  lt := by
    intro ticket hmem
    rw [htickets]
    exact h.lt ticket (hperm.mem_iff.mp hmem)
  carried := hcarried

theorem Numbered.of_fresh (h : i.Numbered) (hperm : j.numbers.Perm (i.tickets :: i.numbers))
    (htickets : j.tickets = i.tickets + 1)
    (hcarried : ∀ w ∈ j.waiting, ∃ s, w.2.sample = some s) : j.Numbered where
  nodup := by
    rw [hperm.nodup_iff, List.nodup_cons]
    exact ⟨fun hmem => Nat.lt_irrefl _ (h.lt _ hmem), h.nodup⟩
  lt := by
    intro ticket hmem
    rw [htickets]
    rcases List.mem_cons.mp (hperm.mem_iff.mp hmem) with rfl | hold
    · exact Nat.lt_succ_self _
    · exact Nat.lt_succ_of_lt (h.lt ticket hold)
  carried := hcarried

theorem answered_accept (ticket : Nat) {b : Buffer} {s : Sample} (hb : b.sample = some s) :
    (i.accept ticket b).answered = ticket :: i.answered := by
  simp [answered, accept, hb, Act.ticket?]

theorem answered_ingest (b : Buffer) : (i.ingest b now).answered = i.answered := by
  cases hb : b.sample <;> simp [answered, ingest, hb, Act.ticket?]

theorem answered_close :
    i.close.answered = (i.waiting.map (·.1)).reverse ++ i.answered := by
  simp [answered, close, Act.ticket?]

theorem Numbered.put (h : i.Numbered) {s : Sample} (hput : i.Put s j) : j.Numbered := by
  cases hput with
  | refused pool hclosed => exact h.of_fresh List.perm_middle rfl h.carried
  | accepted pool hb hopen hwaiting hroom =>
    refine h.of_fresh ?_ rfl h.carried
    rw [numbers, answered_accept _ hb]
    exact List.perm_middle
  | @waits pool b hb hopen =>
    refine h.of_fresh ?_ rfl ?_
    · simp only [numbers, List.map_append, List.append_assoc]
      exact List.perm_middle
    · intro w hw
      rcases List.mem_append.mp hw with hw | hw
      · exact h.carried w hw
      · rw [List.mem_singleton.mp hw]
        exact ⟨s, hb⟩

theorem Numbered.move (h : i.Numbered) (hmove : i.Move now j) : j.Numbered := by
  cases hmove with
  | close hworker hstopping =>
    refine h.of_perm ?_ rfl (fun w hw => by cases hw)
    rw [numbers, answered_close]
    exact (List.reverse_perm _).append_right _
  | merge hworker hqueue =>
    refine h.of_perm ?_ rfl h.carried
    rw [numbers, answered_ingest]
    exact .refl _
  | exit hworker hqueue => exact ⟨h.nodup, h.lt, h.carried⟩
  | @letIn ticket b waiting hwaiting hroom =>
    obtain ⟨s, hb⟩ := h.carried (ticket, b) (by simp [hwaiting])
    refine h.of_perm ?_ rfl (fun w hw => h.carried w (by rw [hwaiting]; exact .tail _ hw))
    rw [numbers, answered_accept _ hb, numbers, hwaiting]
    exact List.perm_middle

theorem answer?_of_ticket?_ne {a : Act} {ticket : Nat} (h : a.ticket? ≠ some ticket) :
    a.answer? ticket = none := by
  cases a with
  | accepted t s => exact if_neg fun ht => h (congrArg some ht)
  | refused t => exact if_neg fun ht => h (congrArg some ht)
  | merged s => rfl

theorem answer?_eq_none {ticket : Nat} (h : ticket ∉ i.answered) : i.answer? ticket = none := by
  rw [answer?, List.findSome?_eq_none_iff]
  intro a ha
  exact answer?_of_ticket?_ne fun ht => h (List.mem_filterMap.mpr ⟨a, ha, ht⟩)

theorem Numbered.answer?_accepted (h : i.Numbered) {ticket : Nat} {s : Sample}
    (hmem : .accepted ticket s ∈ i.history) : i.answer? ticket = some true := by
  have hnodup : i.answered.Nodup := (List.nodup_append.mp h.nodup).2.1
  unfold answered at hnodup
  unfold answer?
  generalize i.history = history at hmem hnodup
  induction history with
  | nil => cases hmem
  | cons a history ih =>
    rcases List.mem_cons.mp hmem with rfl | hmem
    · simp [Act.answer?]
    · have hne : a.ticket? ≠ some ticket := by
        intro ha
        rw [List.filterMap_cons_some ha, List.nodup_cons] at hnodup
        exact hnodup.1 (List.mem_filterMap.mpr ⟨_, hmem, rfl⟩)
      rw [List.findSome?_cons, answer?_of_ticket?_ne hne]
      refine ih hmem (hnodup.sublist ?_)
      exact (List.sublist_cons_self a history).filterMap _

end

def Awaits (i : Intake) (ticket : Nat) : Prop :=
  (i.waiting = [] ∧ ∃ s, .accepted ticket s ∈ i.history) ∨ ∃ b, i.waiting = [(ticket, b)]

section

variable {i j : Intake} {ticket : Nat} {now : Int}

theorem Put.awaits {s : Sample} (h : i.Put s j) (hopen : i.isClosed = false)
    (hwaiting : i.waiting = []) : j.Awaits i.tickets := by
  cases h with
  | refused pool hclosed => rw [hopen] at hclosed; cases hclosed
  | @accepted pool b hb _ _ hroom => exact .inl ⟨hwaiting, s, by simp [accept, hb]⟩
  | @waits pool b hb _ => exact .inr ⟨b, by simp [hwaiting]⟩

theorem Awaits.move (h : i.Awaits ticket) (hi : i.Numbered) (hstopping : i.stopping = false)
    (hmove : i.Move now j) : j.Awaits ticket := by
  cases hmove with
  | close hworker hstop => rw [hstopping] at hstop; cases hstop
  | exit hworker hqueue => exact h
  | merge hworker hqueue =>
    refine h.imp ?_ id
    rintro ⟨hwaiting, s, hs⟩
    exact ⟨hwaiting, s, List.mem_append_right _ hs⟩
  | @letIn t b waiting hw hroom =>
    rcases h with ⟨hwaiting, -⟩ | ⟨b', hwaiting⟩
    · rw [hwaiting] at hw
      cases hw
    · rw [hwaiting] at hw
      cases hw
      obtain ⟨s, hs⟩ := hi.carried (ticket, b) (by simp [hwaiting])
      exact .inl ⟨rfl, s, by simp [accept, show b.sample = some s from hs]⟩

theorem Awaits.of_answer? (h : i.Awaits ticket) (hi : i.Numbered) {outcome : Bool}
    (hanswer : i.answer? ticket = some outcome) : outcome = true ∧ i.waiting = [] := by
  rcases h with ⟨hwaiting, s, hs⟩ | ⟨b, hwaiting⟩
  · rw [hi.answer?_accepted hs] at hanswer
    cases hanswer
    exact ⟨rfl, hwaiting⟩
  · have hunanswered : ticket ∉ i.answered := by
      have hnodup := hi.nodup
      rw [numbers, hwaiting] at hnodup
      exact (List.nodup_cons.mp hnodup).1
    rw [answer?_eq_none hunanswered] at hanswer
    cases hanswer

end

end ScrapeBridge.Intake
