import Mathlib.Data.List.Induction
import ScrapeBridge.Proofs.Cache.Contents

namespace ScrapeBridge.Cache

namespace Event

def feeds (host key : String) : Event → Bool
  | insert sample _ => decide (sample.hostKey = host ∧ sample.itemKey = key)
  | flush _ _ => false

def reaches (host : String) : Event → Bool
  | insert sample _ => sample.hostKey = host
  | flush _ _ => false

def isFlush : Event → Bool
  | insert _ _ => false
  | flush _ _ => true

def now : Event → Int
  | insert _ now => now
  | flush now _ => now

def sample? : Event → Option Sample
  | insert sample _ => some sample
  | flush _ _ => none

section

variable (host key : String) (sample : Sample) (t : Int) (useTimestamp : Bool)

@[simp] theorem feeds_insert :
    (insert sample t).feeds host key = decide (sample.hostKey = host ∧ sample.itemKey = key) := rfl

@[simp] theorem feeds_flush : (flush t useTimestamp).feeds host key = false := rfl

@[simp] theorem reaches_insert :
    (insert sample t).reaches host = decide (sample.hostKey = host) := rfl

@[simp] theorem reaches_flush : (flush t useTimestamp).reaches host = false := rfl

@[simp] theorem isFlush_insert : (insert sample t).isFlush = false := rfl

@[simp] theorem isFlush_flush : (flush t useTimestamp).isFlush = true := rfl

end

end Event

/-- The last sample that has come in for an item. -/
def lastSample? (host key : String) (events : List Event) : Option Sample :=
  (events.reverse.find? (·.feeds host key)).bind (·.sample?)

/-- When the last sample has come in for a host. -/
def lastContact? (host : String) (events : List Event) : Option Int :=
  (events.reverse.find? (·.reaches host)).map (·.now)

/-- There has been a flush since the last sample came in for an item. -/
def flushedSince (host key : String) (events : List Event) : Bool :=
  (events.reverse.takeWhile (!·.feeds host key)).any (·.isFlush)

/-- The samples that have come in since the last flush, in the order in which they came. -/
def pending (events : List Event) : List Sample :=
  (events.reverse.takeWhile (!·.isFlush)).reverse.filterMap (·.sample?)

section

variable (host key : String) (events : List Event) (sample : Sample) (t : Int) (useTimestamp : Bool)

theorem lastSample?_insert :
    lastSample? host key (events ++ [.insert sample t]) =
      if sample.hostKey = host ∧ sample.itemKey = key then some sample
      else lastSample? host key events := by
  by_cases h : sample.hostKey = host ∧ sample.itemKey = key <;>
    simp [lastSample?, Event.sample?, h]

theorem lastSample?_flush :
    lastSample? host key (events ++ [.flush t useTimestamp]) = lastSample? host key events := by
  simp [lastSample?]

theorem lastContact?_insert :
    lastContact? host (events ++ [.insert sample t]) =
      if sample.hostKey = host then some t else lastContact? host events := by
  by_cases h : sample.hostKey = host <;> simp [lastContact?, Event.now, h]

theorem lastContact?_flush :
    lastContact? host (events ++ [.flush t useTimestamp]) = lastContact? host events := by
  simp [lastContact?]

theorem flushedSince_insert :
    flushedSince host key (events ++ [.insert sample t]) =
      if sample.hostKey = host ∧ sample.itemKey = key then false
      else flushedSince host key events := by
  by_cases h : sample.hostKey = host ∧ sample.itemKey = key <;>
    simp [flushedSince, h]

theorem flushedSince_flush :
    flushedSince host key (events ++ [.flush t useTimestamp]) = true := by
  simp [flushedSince]

theorem pending_insert : pending (events ++ [.insert sample t]) = pending events ++ [sample] := by
  simp [pending, Event.sample?]

theorem pending_flush : pending (events ++ [.flush t useTimestamp]) = [] := by
  simp [pending]

end

theorem mem_of_lastContact? {host : String} {events : List Event} {t : Int}
    (h : lastContact? host events = some t) : ∃ e ∈ events, e.now = t := by
  obtain ⟨e, he, ht⟩ := Option.map_eq_some_iff.mp h
  exact ⟨e, List.mem_reverse.mp (List.mem_of_find?_eq_some he), ht⟩

theorem isSome_lastSample? {host key : String} {events : List Event} :
    (lastSample? host key events).isSome ↔ ∃ e ∈ events, e.feeds host key := by
  induction events using List.reverseRecOn with
  | nil => simp [lastSample?]
  | append_singleton events e ih =>
    cases e with
    | insert sample t =>
      rw [lastSample?_insert]
      by_cases h : sample.hostKey = host ∧ sample.itemKey = key
      · simp [h]
      · simp [h, ih]
    | flush t useTimestamp => simp [lastSample?_flush, ih]

theorem run_append (c : Cache) (events : List Event) (e : Event) :
    c.run (events ++ [e]) = (c.run events).apply e := by
  simp [run]

theorem run_run (c : Cache) (events later : List Event) :
    (c.run events).run later = c.run (events ++ later) :=
  List.foldl_append.symm

def inserts (now : Int) (samples : List Sample) : List Event := samples.map (.insert · now)

theorem filterMap_inserts (now : Int) (samples : List Sample) :
    (inserts now samples).filterMap (·.sample?) = samples := by
  rw [inserts, List.filterMap_map]
  exact List.filterMap_some

theorem filter_inserts (now : Int) (samples : List Sample) :
    (inserts now samples).filter (·.isFlush) = [] := by
  simp [inserts]

theorem WellFormed.run {c : Cache} (hc : c.WellFormed) (events : List Event) :
    (c.run events).WellFormed := by
  induction events using List.reverseRecOn with
  | nil => exact hc
  | append_singleton events e ih =>
    rw [run_append]
    cases e with
    | insert sample t => exact ih.insert sample t
    | flush t useTimestamp => exact ih.afterFlush t

def InContact (c : Cache) (events : List Event) : Prop :=
  ∀ host s, c.shard? host = some s → lastContact? host events = some s.lastAccess

section

variable {c : Cache} {events : List Event} (hc : c.WellFormed) (h : c.InContact events)

include hc h

theorem InContact.insert (sample : Sample) (t : Int) :
    (c.insert sample t).InContact (events ++ [.insert sample t]) := by
  intro host s hs
  rw [shard?_insert hc] at hs
  rw [lastContact?_insert]
  split at hs
  case isTrue hh => cases hs; rw [if_pos hh]; rfl
  case isFalse hh => rw [if_neg hh]; exact h host s hs

theorem InContact.flush (t : Int) (useTimestamp : Bool) :
    (c.afterFlush t).InContact (events ++ [.flush t useTimestamp]) := by
  intro host s hs
  rw [shard?_afterFlush hc, Option.bind_eq_some_iff] at hs
  obtain ⟨s', hs', hflush⟩ := hs
  rw [lastContact?_flush]
  split at hflush <;> cases hflush
  exact h host s' hs'

end

theorem inContact_run (seconds : Nat) (events : List Event) :
    ((create seconds).run events).InContact events := by
  induction events using List.reverseRecOn with
  | nil =>
    intro host s h
    simp [run, shard?, find?, create] at h
  | append_singleton events e ih =>
    have hc := (wellFormed_create seconds).run events
    rw [run_append]
    cases e with
    | insert sample t => exact ih.insert hc sample t
    | flush t useTimestamp => exact ih.flush hc t useTimestamp

end ScrapeBridge.Cache
