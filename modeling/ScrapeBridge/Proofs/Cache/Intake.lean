import ScrapeBridge.Cache.Intake
import ScrapeBridge.Proofs.Cache.History

namespace ScrapeBridge.Intake

open Cache (Buffer)

namespace Act

def merged? : Act → Option Sample
  | merged s => some s
  | _ => none

end Act

def merged (i : Intake) : List Sample := i.history.reverse.filterMap (·.merged?)

def samples (buffers : List Buffer) : List Sample := buffers.flatMap (·.sample.toList)

/-- All samples that have been put in and not been refused, in order. -/
def passed (i : Intake) : List Sample :=
  i.merged ++ samples i.queue ++ samples (i.waiting.map (·.2))

inductive Move (i : Intake) (now : Int) : Intake → Prop
  | close (hworker : i.worker = .running) (hstopping : i.stopping = true) : Move i now i.close
  | merge {b : Buffer} {queue : List Buffer} (hworker : i.worker = .running ∨ i.worker = .draining)
      (hqueue : i.queue = b :: queue) : Move i now ({ i with queue }.ingest b now)
  | exit (hworker : i.worker = .draining) (hqueue : i.queue = []) :
      Move i now { i with worker := .stopped }
  | letIn {ticket : Nat} {b : Buffer} {waiting : List (Nat × Buffer)}
      (hwaiting : i.waiting = (ticket, b) :: waiting) (hroom : i.queue.length < capacity) :
      Move i now ({ i with waiting }.accept ticket b)

inductive Put (i : Intake) (s : Sample) : Intake → Prop
  | refused (pool : Cache.Pool) (hclosed : i.isClosed = true) :
      Put i s ({ i with pool, tickets := i.tickets + 1 }.refuse i.tickets)
  | accepted (pool : Cache.Pool) {b : Buffer} (hb : b.sample = some s) (hopen : i.isClosed = false)
      (hwaiting : i.waiting = []) (hroom : i.queue.length < capacity) :
      Put i s ({ i with pool, tickets := i.tickets + 1 }.accept i.tickets b)
  | waits (pool : Cache.Pool) {b : Buffer} (hb : b.sample = some s) (hopen : i.isClosed = false) :
      Put i s { i with
        pool
        tickets := i.tickets + 1
        waiting := i.waiting ++ [(i.tickets, b)] }

theorem put_cases (i : Intake) (s : Sample) : i.Put s (i.put s) := by
  unfold put
  obtain ⟨b, pool⟩ := i.pool.acquire
  have hb : (b.put s).sample = some s := rfl
  simp only
  split
  case isTrue hclosed => exact .refused pool hclosed
  case isFalse hopen =>
    have hopen' : i.isClosed = false := Bool.eq_false_iff.mpr hopen
    split
    case isTrue hroom => exact .accepted pool hb hopen' (List.isEmpty_iff.mp hroom.1) hroom.2
    case isFalse => exact .waits pool hb hopen'

theorem move_of_work? {i j : Intake} {now : Int} {stopFirst : Bool}
    (h : i.work? now stopFirst = some j) : i.Move now j := by
  unfold work? at h
  split at h
  case h_1 hworker hqueue => split at h <;> cases h; case isTrue hs => exact .close hworker hs
  case h_2 b queue hworker hqueue =>
    split at h <;> cases h
    case isTrue hs => exact .close hworker hs.1
    case isFalse => exact .merge (.inl hworker) hqueue
  case h_3 hworker hqueue => cases h; exact .exit hworker hqueue
  case h_4 b queue hworker hqueue => cases h; exact .merge (.inr hworker) hqueue
  all_goals cases h

theorem move_of_letIn? {i j : Intake} (h : i.letIn? = some j) (now : Int) : i.Move now j := by
  unfold letIn? at h
  split at h
  case h_1 => cases h
  case h_2 ticket b waiting hwaiting =>
    split at h <;> cases h
    case isTrue hroom => exact .letIn hwaiting hroom

section

variable {i j : Intake} {now : Int}

@[simp] theorem samples_nil : samples [] = [] := rfl

@[simp] theorem samples_cons (b : Buffer) (l : List Buffer) :
    samples (b :: l) = b.sample.toList ++ samples l := rfl

@[simp] theorem samples_append (l r : List Buffer) : samples (l ++ r) = samples l ++ samples r :=
  List.flatMap_append

theorem merged_ingest (b : Buffer) : (i.ingest b now).merged = i.merged ++ b.sample.toList := by
  cases hb : b.sample <;> simp [merged, ingest, hb, Act.merged?]

theorem merged_accept (ticket : Nat) (b : Buffer) : (i.accept ticket b).merged = i.merged := by
  cases hb : b.sample <;> simp [merged, accept, hb, Act.merged?]

theorem merged_refuse (ticket : Nat) : (i.refuse ticket).merged = i.merged := by
  simp [merged, refuse, Act.merged?]

theorem merged_close : i.close.merged = i.merged := by simp [merged, close, Act.merged?]

/-- Nothing is lost in the intake, except that a close refuses those who wait. -/
theorem Move.passed_eq (h : i.Move now j) (hwaiting : i.stopping = true → i.waiting = []) :
    j.passed = i.passed := by
  cases h with
  | close hworker hstopping =>
    have hnone := hwaiting hstopping
    rw [passed, merged_close, passed, hnone]
    rfl
  | @merge b queue hworker hqueue =>
    have hmerged : { i with queue }.merged = i.merged := rfl
    rw [passed, merged_ingest, hmerged, passed, hqueue, samples_cons]
    simp [ingest]
  | exit hworker hqueue => rfl
  | @letIn ticket b waiting hw hroom =>
    have hmerged : { i with waiting }.merged = i.merged := rfl
    rw [passed, merged_accept, hmerged, passed, hw]
    simp [accept]

theorem Put.passed_eq {s : Sample} (h : i.Put s j) (hopen : i.isClosed = false) :
    j.passed = i.passed ++ [s] := by
  cases h with
  | refused pool hclosed => rw [hopen] at hclosed; cases hclosed
  | accepted pool hb _ hwaiting hroom =>
    have hmerged : { i with pool, tickets := i.tickets + 1 }.merged = i.merged := rfl
    rw [passed, merged_accept, hmerged, passed, hwaiting]
    simp [accept, hb]
  | waits pool hb _ => simp [passed, hb, merged]

theorem Put.worker_eq {s : Sample} (h : i.Put s j) : j.worker = i.worker := by cases h <;> rfl

theorem Put.stopping_eq {s : Sample} (h : i.Put s j) : j.stopping = i.stopping := by cases h <;> rfl

theorem Move.waiting_eq_nil (h : i.Move now j) (hwaiting : i.waiting = []) : j.waiting = [] := by
  cases h with
  | close hworker hstopping => rfl
  | merge hworker hqueue => exact hwaiting
  | exit hworker hqueue => exact hwaiting
  | letIn hw hroom => rw [hwaiting] at hw; cases hw

theorem Move.running (h : i.Move now j) (hworker : i.worker = .running)
    (hstopping : i.stopping = false) : j.worker = .running ∧ j.stopping = false := by
  cases h with
  | close _ hstop => rw [hstopping] at hstop; cases hstop
  | merge _ hqueue => exact ⟨hworker, hstopping⟩
  | exit hdraining hqueue => rw [hworker] at hdraining; cases hdraining
  | letIn hw hroom => exact ⟨hworker, hstopping⟩

theorem Move.worker_ne_absent (h : i.Move now j) (hworker : i.worker ≠ .absent) :
    j.worker ≠ .absent := by
  cases h with
  | close _ hstopping => exact fun hdraining => by cases hdraining
  | exit _ hqueue => exact fun hstopped => by cases hstopped
  | merge _ hqueue => exact hworker
  | letIn hw hroom => exact hworker

theorem Move.stopping_eq (h : i.Move now j) : j.stopping = i.stopping := by cases h <;> rfl

theorem queue_eq_nil_of_work? (hworker : i.worker = .running) (hwaits : i.work? now true = none) :
    i.queue = [] ∧ i.stopping = false := by
  cases hqueue : i.queue with
  | nil => simpa [work?, hworker, hqueue] using hwaits
  | cons b queue =>
    rw [work?, hworker, hqueue] at hwaits
    dsimp only at hwaits
    split at hwaits <;> cases hwaits

theorem worker_of_stopping (hstarted : i.worker ≠ .absent) (hstopping : i.stopping = true)
    (hwaits : i.work? now true = none) : i.worker = .stopped := by
  cases hworker : i.worker with
  | absent => exact absurd hworker hstarted
  | running =>
    have hclash := (queue_eq_nil_of_work? hworker hwaits).2
    rw [hstopping] at hclash
    cases hclash
  | draining => cases hqueue : i.queue <;> simp [work?, hworker, hqueue] at hwaits
  | stopped => rfl

theorem Move.emptied (h : i.Move now j) (hwaiting : i.worker = .stopped → i.waiting = [])
    (hj : j.worker = .stopped) : j.queue = [] := by
  cases h with
  | close hworker hstopping => cases hj
  | merge hworker hqueue =>
    have hi : i.worker = .stopped := hj
    rw [hi] at hworker
    rcases hworker with hworker | hworker <;> cases hworker
  | exit hworker hqueue => exact hqueue
  | letIn hw hroom =>
    have hi : i.worker = .stopped := hj
    rw [hwaiting hi] at hw
    cases hw

end

section

variable {i j : Intake} {now : Int}

theorem Put.keeps {s : Sample} (h : i.Put s j) : j.merged = i.merged ∧ j.cache = i.cache := by
  cases h with
  | refused pool hclosed => exact ⟨merged_refuse _, rfl⟩
  | accepted pool hb hopen hwaiting hroom => exact ⟨merged_accept _ _, rfl⟩
  | waits pool hb hopen => exact ⟨rfl, rfl⟩

theorem Move.exists_inserts (h : i.Move now j) : ∃ samples,
    j.merged = i.merged ++ samples ∧ j.cache = i.cache.run (Cache.inserts now samples) := by
  cases h with
  | close hworker hstopping => exact ⟨[], merged_close.trans (List.append_nil _).symm, rfl⟩
  | exit hworker hqueue => exact ⟨[], (List.append_nil _).symm, rfl⟩
  | letIn hwaiting hroom =>
    exact ⟨[], (merged_accept _ _).trans (List.append_nil _).symm, rfl⟩
  | @merge b queue hworker hqueue =>
    refine ⟨b.sample.toList, merged_ingest b, ?_⟩
    rw [ingest]
    cases b.sample <;> rfl

end

/-- The cache is what inserting the merged samples, with flushes in between, has made of an empty
one. -/
def Fills (i : Intake) (seconds : Nat) : Prop :=
  ∃ events : List Cache.Event,
    i.cache = (Cache.create seconds).run events ∧ events.filterMap (·.sample?) = i.merged

section

variable {i j : Intake} {seconds : Nat} {now : Int}

theorem fills_create (seconds : Nat) : (create seconds).Fills seconds := ⟨[], rfl, rfl⟩

theorem Fills.put (h : i.Fills seconds) {s : Sample} (hput : i.Put s j) : j.Fills seconds := by
  obtain ⟨events, hcache, hmerged⟩ := h
  exact ⟨events, hput.keeps.2.trans hcache, hmerged.trans hput.keeps.1.symm⟩

theorem Fills.move (h : i.Fills seconds) (hmove : i.Move now j) : j.Fills seconds := by
  obtain ⟨events, hcache, hmerged⟩ := h
  obtain ⟨samples, hmore, hinserts⟩ := hmove.exists_inserts
  refine ⟨events ++ Cache.inserts now samples, ?_, ?_⟩
  · rw [hinserts, hcache, Cache.run_run]
  · rw [List.filterMap_append, Cache.filterMap_inserts, hmerged, hmore]

theorem Fills.flush (h : i.Fills seconds) (useTimestamp : Bool) :
    { i with cache := (i.cache.flush now useTimestamp).1 }.Fills seconds := by
  obtain ⟨events, hcache, hmerged⟩ := h
  refine ⟨events ++ [.flush now useTimestamp], ?_, ?_⟩
  · rw [Cache.run_append, ← hcache]
    rfl
  · rw [List.filterMap_append, hmerged]
    exact List.append_nil _

end

end ScrapeBridge.Intake
