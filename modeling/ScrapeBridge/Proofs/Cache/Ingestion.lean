import Mathlib.Data.List.Induction
import Mathlib.Data.List.Perm.Subperm
import ScrapeBridge.Proofs.Cache.Recycling
import ScrapeBridge.Proofs.Cache.Tickets

namespace ScrapeBridge.Intake

open Cache (Buffer Pool)

namespace Act

def accept? : Act → Option (Nat × Sample)
  | accepted ticket s => some (ticket, s)
  | _ => none

end Act

namespace Event

def sample? : Event → Option Sample
  | put s => some s
  | _ => none

def flush? : Event → Option Cache.Event
  | flush now useTimestamp => some (.flush now useTimestamp)
  | _ => none

end Event

def accepts (i : Intake) : List (Nat × Sample) := i.history.reverse.filterMap (·.accept?)

/-- The samples that are put in during a run; the ticket of a put is its place among them. -/
def puts (events : List Event) : List Sample := events.filterMap (·.sample?)

def flushes (events : List Event) : List Cache.Event := events.filterMap (·.flush?)

section

variable {i j : Intake} {now : Int}

theorem accepts_accept (ticket : Nat) {b : Buffer} {s : Sample} (hb : b.sample = some s) :
    (i.accept ticket b).accepts = i.accepts ++ [(ticket, s)] := by
  simp [accepts, accept, hb, Act.accept?]

theorem accepts_refuse (ticket : Nat) : (i.refuse ticket).accepts = i.accepts := by
  simp [accepts, refuse, Act.accept?]

theorem accepts_close : i.close.accepts = i.accepts := by simp [accepts, close, Act.accept?]

theorem accepts_ingest (b : Buffer) : (i.ingest b now).accepts = i.accepts := by
  cases hb : b.sample <;> simp [accepts, ingest, hb, Act.accept?]

theorem mem_accepts {ticket : Nat} {s : Sample} :
    (ticket, s) ∈ i.accepts ↔ .accepted ticket s ∈ i.history := by
  rw [accepts, List.mem_filterMap]
  constructor
  · rintro ⟨a, ha, hs⟩
    cases a <;> cases hs
    exact List.mem_reverse.mp ha
  · exact fun h => ⟨_, List.mem_reverse.mpr h, rfl⟩

/-- What has been accepted is merged or in the queue, in order. -/
structure Queued (i : Intake) : Prop where
  ordered : i.accepts.map (·.2) = i.merged ++ samples i.queue
  room : i.queue.length ≤ capacity
  closed : i.isClosed = true → i.waiting = []
  emptied : i.worker = .stopped → i.queue = []

theorem isClosed_of_stopped (h : i.worker = .stopped) : i.isClosed = true := by
  simp [isClosed, h]

theorem queued_create (seconds : Nat) : (create seconds).Queued where
  ordered := rfl
  room := Nat.zero_le _
  closed := fun _ => rfl
  emptied := fun _ => rfl

theorem Queued.put (h : i.Queued) {s : Sample} (hput : i.Put s j) : j.Queued := by
  have hnotStopped : i.isClosed = false → i.worker ≠ .stopped := by
    intro hopen hstopped
    rw [isClosed_of_stopped hstopped] at hopen
    cases hopen
  cases hput with
  | refused pool hclosed =>
    refine ⟨?_, h.room, h.closed, h.emptied⟩
    rw [accepts_refuse, merged_refuse]
    exact h.ordered
  | @accepted pool b hb hopen hwaiting hroom =>
    refine ⟨?_, ?_, fun _ => hwaiting, fun hstopped => absurd hstopped (hnotStopped hopen)⟩
    · have hsame : List.map Prod.snd { i with pool, tickets := i.tickets + 1 }.accepts =
          i.merged ++ samples i.queue := h.ordered
      rw [accepts_accept _ hb, List.map_append, hsame, merged_accept]
      simp [accept, hb, merged]
    · rw [accept, List.length_append]
      exact hroom
  | waits pool hb hopen =>
    refine ⟨h.ordered, h.room, fun hclosed => ?_, h.emptied⟩
    have hclash := hopen.symm.trans hclosed
    cases hclash

theorem Queued.move (h : i.Queued) (hi : i.Numbered) (hmove : i.Move now j) : j.Queued := by
  have hemptied : j.worker = .stopped → j.queue = [] :=
    hmove.emptied fun hstopped => h.closed (isClosed_of_stopped hstopped)
  cases hmove with
  | close hworker hstopping =>
    refine ⟨?_, h.room, fun _ => rfl, hemptied⟩
    rw [accepts_close, merged_close]
    exact h.ordered
  | @merge b queue hworker hqueue =>
    have hroom := h.room
    rw [hqueue, List.length_cons] at hroom
    refine ⟨?_, Nat.le_of_succ_le hroom, h.closed, hemptied⟩
    have hsame : List.map Prod.snd { i with queue }.accepts = i.merged ++ samples i.queue :=
      h.ordered
    rw [accepts_ingest, merged_ingest, hsame, hqueue, samples_cons, ← List.append_assoc]
    rfl
  | exit hworker hqueue =>
    exact ⟨h.ordered, h.room, fun _ => h.closed (by simp [isClosed, hworker]), hemptied⟩
  | @letIn ticket b waiting hwaiting hroom =>
    obtain ⟨s, hb⟩ := hi.carried (ticket, b) (by simp [hwaiting])
    refine ⟨?_, ?_, fun hclosed => ?_, hemptied⟩
    · have hsame : List.map Prod.snd { i with waiting }.accepts = i.merged ++ samples i.queue :=
        h.ordered
      rw [accepts_accept _ hb, List.map_append, hsame, merged_accept]
      simp [accept, show b.sample = some s from hb, merged]
    · rw [accept, List.length_append]
      exact hroom
    · rw [h.closed hclosed] at hwaiting
      cases hwaiting

theorem length_numbers : i.numbers.length = i.waiting.length + i.answered.length := by
  simp [numbers]

theorem Put.length_numbers {s : Sample} (h : i.Put s j) :
    j.numbers.length = i.numbers.length + 1 := by
  rw [Intake.length_numbers, Intake.length_numbers]
  cases h with
  | refused pool hclosed => rfl
  | accepted pool hb hopen hwaiting hroom =>
    rw [answered_accept _ hb]
    rfl
  | @waits pool b hb hopen =>
    rw [List.length_append, Nat.add_right_comm]
    rfl

theorem Move.length_numbers (h : i.Move now j) (hi : i.Numbered) :
    j.numbers.length = i.numbers.length := by
  rw [Intake.length_numbers, Intake.length_numbers]
  cases h with
  | close hworker hstopping =>
    have hwaiting : i.close.waiting = [] := rfl
    rw [answered_close, hwaiting]
    simp
  | merge hworker hqueue =>
    rw [answered_ingest]
    rfl
  | exit hworker hqueue => rfl
  | @letIn ticket b waiting hwaiting hroom =>
    obtain ⟨s, hb⟩ := hi.carried (ticket, b) (by simp [hwaiting])
    rw [answered_accept ticket hb, hwaiting, List.length_cons, List.length_cons, Nat.add_right_comm]
    rfl

/-- Every put is known by its ticket: it waits with its sample, or has been answered. -/
structure Known (i : Intake) (samples : List Sample) : Prop where
  numbered : i.Numbered
  tickets_eq : i.tickets = samples.length
  complete : i.numbers.length = i.tickets
  accepted : ∀ ticket s, (ticket, s) ∈ i.accepts → samples[ticket]? = some s
  waiting : ∀ w ∈ i.waiting, samples[w.1]? = w.2.sample

theorem known_create (seconds : Nat) : (create seconds).Known [] where
  numbered := numbered_create seconds
  tickets_eq := rfl
  complete := rfl
  accepted := by intro ticket s h; cases h
  waiting := by intro w hw; cases hw

variable {l : List Sample}

theorem Put.tickets_eq {s : Sample} (h : i.Put s j) : j.tickets = i.tickets + 1 := by
  cases h <;> rfl

theorem Move.tickets_eq (h : i.Move now j) : j.tickets = i.tickets := by cases h <;> rfl

theorem Known.put (h : i.Known l) {s : Sample} (hput : i.Put s j) : j.Known (l ++ [s]) := by
  have hlast : (l ++ [s])[i.tickets]? = some s := by simp [h.tickets_eq]
  have hold : ∀ {ticket : Nat} {t : Sample}, l[ticket]? = some t →
      (l ++ [s])[ticket]? = some t := by
    intro ticket t ht
    obtain ⟨hlt, -⟩ := List.getElem?_eq_some_iff.mp ht
    rw [List.getElem?_append_left hlt, ht]
  have hwaiting : ∀ w ∈ i.waiting, (l ++ [s])[w.1]? = w.2.sample := by
    intro w hw
    obtain ⟨t, ht⟩ := h.numbered.carried w hw
    rw [ht]
    exact hold ((h.waiting w hw).trans ht)
  refine ⟨h.numbered.put hput, ?_, ?_, ?_, ?_⟩
  · rw [hput.tickets_eq, h.tickets_eq, List.length_append, List.length_singleton]
  · rw [hput.length_numbers, hput.tickets_eq, h.complete]
  · intro ticket t ht
    cases hput with
    | refused pool hclosed =>
      rw [accepts_refuse] at ht
      exact hold (h.accepted ticket t ht)
    | @accepted pool b hb hopen hempty hroom =>
      rw [accepts_accept _ hb] at ht
      rcases List.mem_append.mp ht with ht | ht
      · exact hold (h.accepted ticket t ht)
      · cases List.mem_singleton.mp ht
        exact hlast
    | waits pool hb hopen => exact hold (h.accepted ticket t ht)
  · cases hput with
    | refused pool hclosed => exact hwaiting
    | accepted pool hb hopen hempty hroom => exact hwaiting
    | @waits pool b hb hopen =>
      intro w hw
      rcases List.mem_append.mp hw with hw | hw
      · exact hwaiting w hw
      · rw [List.mem_singleton.mp hw, hb]
        exact hlast

theorem Known.move (h : i.Known l) (hmove : i.Move now j) : j.Known l := by
  refine ⟨h.numbered.move hmove, hmove.tickets_eq.trans h.tickets_eq, ?_, ?_, ?_⟩
  · rw [hmove.length_numbers h.numbered, hmove.tickets_eq, h.complete]
  · intro ticket s hs
    cases hmove with
    | close hworker hstopping =>
      rw [accepts_close] at hs
      exact h.accepted ticket s hs
    | merge hworker hqueue =>
      rw [accepts_ingest] at hs
      exact h.accepted ticket s hs
    | exit hworker hqueue => exact h.accepted ticket s hs
    | @letIn t b waiting hwaiting hroom =>
      have hfirst : (t, b) ∈ i.waiting := by simp [hwaiting]
      obtain ⟨u, hb⟩ := h.numbered.carried (t, b) hfirst
      rw [accepts_accept t hb] at hs
      rcases List.mem_append.mp hs with hs | hs
      · exact h.accepted ticket s hs
      · cases List.mem_singleton.mp hs
        exact (h.waiting _ hfirst).trans hb
  · intro w hw
    cases hmove with
    | close hworker hstopping => cases hw
    | merge hworker hqueue => exact h.waiting w hw
    | exit hworker hqueue => exact h.waiting w hw
    | letIn hwaiting hroom => exact h.waiting w (by rw [hwaiting]; exact .tail _ hw)

theorem exists_answer? {ticket : Nat} (h : ticket ∈ i.answered) :
    ∃ outcome, i.answer? ticket = some outcome := by
  obtain ⟨a, ha, hticket⟩ := List.mem_filterMap.mp h
  have hanswer : (a.answer? ticket).isSome := by
    cases a <;> cases hticket <;> simp [Act.answer?]
  rw [← Option.isSome_iff_exists, answer?, List.findSome?_isSome_iff]
  exact ⟨a, ha, hanswer⟩

theorem accepted_of_answer? {ticket : Nat} (h : i.answer? ticket = some true) :
    ∃ s, (ticket, s) ∈ i.accepts := by
  obtain ⟨a, ha, hanswer⟩ := List.exists_of_findSome?_eq_some h
  cases a with
  | accepted t s =>
    obtain rfl : t = ticket := by simpa [Act.answer?] using hanswer
    exact ⟨s, mem_accepts.mpr ha⟩
  | refused t => simp [Act.answer?] at hanswer
  | merged s => cases hanswer

theorem Known.mem_accepts_iff (h : i.Known l) {ticket : Nat} {s : Sample} :
    (ticket, s) ∈ i.accepts ↔ i.answer? ticket = some true ∧ l[ticket]? = some s := by
  constructor
  · exact fun hs => ⟨h.numbered.answer?_accepted (mem_accepts.mp hs), h.accepted ticket s hs⟩
  · rintro ⟨hanswer, hs⟩
    obtain ⟨t, ht⟩ := accepted_of_answer? hanswer
    obtain rfl : t = s := Option.some.inj ((h.accepted ticket t ht).symm.trans hs)
    exact ht

theorem accepts_sublist : (i.accepts.map (·.1)).Sublist i.answered.reverse := by
  unfold accepts answered
  rw [← List.filterMap_reverse]
  induction i.history.reverse with
  | nil => exact .slnil
  | cons a history ih =>
    cases a with
    | accepted ticket s => exact ih.cons_cons ticket
    | refused ticket => exact ih.cons ticket
    | merged s => exact ih

theorem Known.nodup_accepts (h : i.Known l) : (i.accepts.map (·.1)).Nodup := by
  have hanswered : i.answered.Nodup := (List.nodup_append.mp h.numbered.nodup).2.1
  exact (List.nodup_reverse.mpr hanswered).sublist accepts_sublist

theorem Known.exists_answer? (h : i.Known l) (hwaiting : i.waiting = []) {ticket : Nat}
    (hticket : ticket < l.length) : ∃ outcome, i.answer? ticket = some outcome := by
  have hnumbers : i.numbers = i.answered := by rw [numbers, hwaiting]; rfl
  have hsub : i.numbers.Subperm (List.range i.tickets) :=
    List.subperm_of_subset h.numbered.nodup fun t ht => List.mem_range.mpr (h.numbered.lt t ht)
  have hperm := hsub.perm_of_length_le (by simp [h.complete])
  apply Intake.exists_answer?
  rw [← hnumbers, hperm.mem_iff, List.mem_range, h.tickets_eq]
  exact hticket

end

/-- The cache is what the merged samples and the flushes have made of an empty one. -/
def Logged (i : Intake) (seconds : Nat) (flushes : List Cache.Event) : Prop :=
  ∃ log : List Cache.Event, i.cache = (Cache.create seconds).run log ∧
    log.filterMap (·.sample?) = i.merged ∧ log.filter (·.isFlush) = flushes

section

variable {i j : Intake} {now : Int} {seconds : Nat} {past : List Cache.Event}

theorem logged_create (seconds : Nat) : (create seconds).Logged seconds [] := ⟨[], rfl, rfl, rfl⟩

theorem Logged.put (h : i.Logged seconds past) {s : Sample} (hput : i.Put s j) :
    j.Logged seconds past := by
  obtain ⟨log, hcache, hmerged, hpast⟩ := h
  exact ⟨log, hput.keeps.2.trans hcache, hmerged.trans hput.keeps.1.symm, hpast⟩

theorem Logged.move (h : i.Logged seconds past) (hmove : i.Move now j) : j.Logged seconds past := by
  obtain ⟨log, hcache, hmerged, hpast⟩ := h
  obtain ⟨samples, hmore, hinserts⟩ := hmove.exists_inserts
  refine ⟨log ++ Cache.inserts now samples, ?_, ?_, ?_⟩
  · rw [hinserts, hcache, Cache.run_run]
  · rw [List.filterMap_append, Cache.filterMap_inserts, hmerged, hmore]
  · rw [List.filter_append, Cache.filter_inserts, hpast, List.append_nil]

theorem Logged.flush (h : i.Logged seconds past) (now : Int) (useTimestamp : Bool) :
    { i with cache := (i.cache.flush now useTimestamp).1 }.Logged seconds
      (past ++ [Cache.Event.flush now useTimestamp]) := by
  obtain ⟨log, hcache, hmerged, hpast⟩ := h
  refine ⟨log ++ [.flush now useTimestamp], ?_, ?_, ?_⟩
  · rw [Cache.run_append, ← hcache]
    rfl
  · rw [List.filterMap_append, hmerged]
    exact List.append_nil _
  · rw [List.filter_append, hpast]
    rfl

end

structure Ingested (i : Intake) (seconds : Nat) (samples : List Sample) (past : List Cache.Event) :
    Prop where
  queued : i.Queued
  known : i.Known samples
  lends : i.pool.Lends i.lent
  logged : i.Logged seconds past

section

variable {i j : Intake} {now : Int} {seconds : Nat} {l : List Sample} {past : List Cache.Event}

theorem ingested_create (seconds : Nat) : (create seconds).Ingested seconds [] [] where
  queued := queued_create seconds
  known := known_create seconds
  lends := Pool.lends_create capacity
  logged := logged_create seconds

theorem Ingested.move (h : i.Ingested seconds l past) (hmove : i.Move now j) :
    j.Ingested seconds l past where
  queued := h.queued.move h.known.numbered hmove
  known := h.known.move hmove
  lends := hmove.lends h.lends
  logged := h.logged.move hmove

theorem Ingested.getD {o : Option Intake} (h : i.Ingested seconds l past)
    (ho : ∀ j, o = some j → i.Move now j) : (o.getD i).Ingested seconds l past := by
  cases o with
  | none => exact h
  | some j => exact h.move (ho j rfl)

theorem Ingested.put (h : i.Ingested seconds l past) (s : Sample) :
    (i.put s).Ingested seconds (l ++ [s]) past where
  queued := h.queued.put (i.put_cases s)
  known := h.known.put (i.put_cases s)
  lends := lends_put h.lends s
  logged := h.logged.put (i.put_cases s)

theorem Ingested.around (h : i.Ingested seconds l past) {cache : Cache} {pool : Pool}
    {worker : Worker} {stopping : Bool} {past' : List Cache.Event}
    (hworker : worker = i.worker ∨ worker = .running) (hpool : pool.Lends i.lent)
    (hlogged : { i with cache }.Logged seconds past') :
    { i with cache, pool, worker, stopping }.Ingested seconds l past' where
  queued := by
    refine ⟨h.queued.ordered, h.queued.room, fun hclosed => ?_, fun hstopped => ?_⟩
    · rcases hworker with rfl | rfl
      · exact h.queued.closed hclosed
      · cases hclosed
    · rcases hworker with rfl | rfl
      · exact h.queued.emptied hstopped
      · cases hstopped
  known :=
    have hnumbered := h.known.numbered
    ⟨⟨hnumbered.nodup, hnumbered.lt, hnumbered.carried⟩, h.known.tickets_eq, h.known.complete,
      h.known.accepted, h.known.waiting⟩
  lends := hpool
  logged := hlogged

theorem Ingested.start (h : i.Ingested seconds l past) :
    (i.start.getD i).Ingested seconds l past := by
  unfold Intake.start
  split
  · exact h.around (.inr rfl) h.lends h.logged
  · exact h

theorem Ingested.after {events : List Event}
    (h : i.Ingested seconds (puts events) (flushes events)) (e : Event) :
    (i.apply e).Ingested seconds (puts (events ++ [e])) (flushes (events ++ [e])) := by
  have hputs : puts (events ++ [e]) = puts events ++ e.sample?.toList := by
    cases e <;> simp [puts, Event.sample?]
  have hflushes : flushes (events ++ [e]) = flushes events ++ e.flush?.toList := by
    cases e <;> simp [flushes, Event.flush?]
  rw [hputs, hflushes]
  have hnothing : (i.apply e).Ingested seconds (puts events) (flushes events) →
      e.sample? = none → e.flush? = none →
      (i.apply e).Ingested seconds (puts events ++ e.sample?.toList)
        (flushes events ++ e.flush?.toList) := by
    intro hi hsample hflush
    simpa only [hsample, hflush, Option.toList_none, List.append_nil] using hi
  cases e with
  | put s =>
    have hput := h.put s
    rw [← List.append_nil (flushes events)] at hput
    exact hput
  | flush now useTimestamp =>
    have hflush : (i.apply (.flush now useTimestamp)).Ingested seconds (puts events)
        (flushes events ++ [Cache.Event.flush now useTimestamp]) :=
      h.around (.inl rfl) h.lends (h.logged.flush now useTimestamp)
    rw [← List.append_nil (puts events)] at hflush
    exact hflush
  | start => exact hnothing h.start rfl rfl
  | stop => exact hnothing (h.around (.inl rfl) h.lends h.logged) rfl rfl
  | work now stopFirst => exact hnothing (h.getD fun j hj => move_of_work? hj) rfl rfl
  | letIn => exact hnothing (h.getD fun j hj => move_of_letIn? hj 0) rfl rfl
  | borrow =>
    have hpool := h.lends.acquire.2.sublist (List.sublist_cons_self _ _)
    exact hnothing (h.around (.inl rfl) hpool h.logged) rfl rfl
  | donate sample =>
    have hpool := (h.lends.make).release (b := { i.pool.make.1 with sample })
    exact hnothing (h.around (.inl rfl) hpool h.logged) rfl rfl

theorem ingested_run (seconds : Nat) (events : List Event) :
    ((create seconds).run events).Ingested seconds (puts events) (flushes events) := by
  induction events using List.reverseRecOn with
  | nil => exact ingested_create seconds
  | append_singleton events e ih =>
    rw [run_concat]
    exact ih.after e

end

/-- Once the worker has stopped, the samples that have been merged are those of the accepted puts,
in the order in which they came into the queue, and every put has its answer. -/
theorem run_merges_accepted (seconds : Nat) (events : List Event) :
    let i := (create seconds).run events
    (i.worker = .stopped → i.merged = i.accepts.map (·.2) ∧
      ∀ ticket < (puts events).length, ∃ outcome, i.answer? ticket = some outcome) ∧
    i.accepts.map (·.2) = i.merged ++ samples i.queue ∧
    (i.accepts.map (·.1)).Nodup ∧
    (∀ ticket s, (ticket, s) ∈ i.accepts ↔
      i.answer? ticket = some true ∧ (puts events)[ticket]? = some s) ∧
    i.Logged seconds (flushes events) ∧
    i.queue.length ≤ capacity ∧
    i.pool.Lends i.lent ∧
    ∀ (pool : Pool) (others : List Event),
      others.filter (!·.isOfPool) = events.filter (!·.isOfPool) →
        let j := { create seconds with pool }.run others
        j.cache = i.cache ∧ j.history = i.history := by
  intro i
  have h : i.Ingested seconds (puts events) (flushes events) := ingested_run seconds events
  refine ⟨fun hstopped => ⟨?_, fun ticket hticket => ?_⟩, h.queued.ordered, h.known.nodup_accepts,
    fun ticket s => h.known.mem_accepts_iff, h.logged, h.queued.room, h.lends, ?_⟩
  · have hordered := h.queued.ordered
    rw [h.queued.emptied hstopped, samples_nil, List.append_nil] at hordered
    exact hordered.symm
  · exact h.known.exists_answer? (h.queued.closed (isClosed_of_stopped hstopped)) hticket
  · intro pool others hothers
    have hsame : { create seconds with pool }.bare = (create seconds).bare := rfl
    have hbare := bare_run_congr hsame hothers
    have hcache := congrArg Intake.cache hbare
    have hhistory := congrArg Intake.history hbare
    exact ⟨hcache, hhistory⟩

/-- The buffer of the first sample comes back for the third, a stop finds two samples in the queue,
and the put after it is refused. -/
theorem run_merges_accepted_of_stop :
    ∃ events : List Event,
      let i := (create 300).run events
      i.worker = .stopped ∧ i.answer? 3 = some false ∧ i.merged.map (·.itemKey) = ["a", "b", "a"] ∧
        i.merged = i.accepts.map (·.2) := by
  let sample (plugin : String) : Sample := .collectd { host := "h", plugin, type := plugin }
  let events : List Event := [.put (sample "a"), .start, .work 5 true, .donate (some (sample "d")),
    .put (sample "b"), .put (sample "a"), .stop, .work 6 true, .put (sample "c"), .work 7 true,
    .work 8 true, .work 9 true]
  obtain ⟨hstopped, hrefused, hkeys⟩ : ((create 300).run events).worker = .stopped ∧
      ((create 300).run events).answer? 3 = some false ∧
      ((create 300).run events).merged.map (·.itemKey) = ["a", "b", "a"] := by
    decide +kernel
  exact ⟨events, hstopped, hrefused, hkeys, ((run_merges_accepted 300 events).1 hstopped).1⟩

end ScrapeBridge.Intake
