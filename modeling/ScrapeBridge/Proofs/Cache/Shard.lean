import ScrapeBridge.Cache.Shard
import ScrapeBridge.Proofs.Table

namespace ScrapeBridge.Cache

def maxTime : Int := 9223372036854775807

/-- A point in time as clocks report it. -/
def IsTime (t : Int) : Prop := 0 ≤ t ∧ t ≤ maxTime

instance : DecidablePred IsTime := fun t => inferInstanceAs (Decidable (0 ≤ t ∧ t ≤ maxTime))

namespace Shard

def merge (s : Shard) (sample : Sample) (now : Int) : Shard :=
  { s with
    lastAccess := now
    items := s.items.insert sample.itemKey ⟨sample, true⟩ }

theorem accept?_of_live {s : Shard} (h : s.retired = false) (sample : Sample) (now : Int) :
    s.accept? sample now = some (s.merge sample now) := by
  simp [accept?, h, merge]

theorem get?_merge (s : Shard) (sample : Sample) (now : Int) (key : String) :
    (s.merge sample now).items.get? key =
      if sample.itemKey = key then some ⟨sample, true⟩ else s.items.get? key :=
  Table.get?_insert _ _ _ _

theorem isEmpty_merge (s : Shard) (sample : Sample) (now : Int) :
    (s.merge sample now).items.isEmpty = false := by
  rw [Bool.eq_false_iff, ne_eq, Table.isEmpty_iff]
  intro h
  have hk := h sample.itemKey
  rw [get?_merge, if_pos rfl] at hk
  cases hk

theorem get?_flush (s : Shard) (now : Int) (key : String) :
    (s.flush now).items.get? key = (s.items.get? key).bind (survivor? (s.expired now)) :=
  Table.get?_filterMap _ _ _

theorem retired_flush (s : Shard) (now : Int) :
    (s.flush now).retired = (s.retired || (s.flush now).items.isEmpty) := rfl

def newSamples (s : Shard) : List Sample :=
  s.items.entries.filterMap fun (_, e) => if e.isNew then some e.sample else none

theorem newReadings_eq (s : Shard) (useTimestamp : Bool) :
    s.newReadings useTimestamp = s.newSamples.flatMap (·.readings useTimestamp) := by
  unfold newReadings newSamples
  induction s.items.entries with
  | nil => rfl
  | cons e l ih =>
    obtain ⟨key, sample, isNew⟩ := e
    cases isNew <;> simp [ih]

theorem mem_newSamples {s : Shard} {sample : Sample} :
    sample ∈ s.newSamples ↔ ∃ key, s.items.get? key = some ⟨sample, true⟩ := by
  unfold newSamples
  rw [List.mem_filterMap]
  constructor
  · rintro ⟨⟨key, e⟩, hm, he⟩
    obtain ⟨hn, rfl⟩ : e.isNew = true ∧ e.sample = sample := by simpa using he
    refine ⟨key, Table.mem_entries.mp ?_⟩
    rwa [← hn]
  · rintro ⟨key, h⟩
    exact ⟨(key, ⟨sample, true⟩), Table.mem_entries.mpr h, rfl⟩

/-- No age is out of the range of a signed number of 64 bits. -/
theorem age_eq_sub {s : Shard} {now : Int} (hs : IsTime s.lastAccess) (hn : IsTime now) :
    s.age now = now - s.lastAccess := by
  obtain ⟨hs₀, hs₁⟩ := hs
  obtain ⟨hn₀, hn₁⟩ := hn
  unfold maxTime at hs₁ hn₁
  have hsize : ((UInt64.size : Nat) : Int) = 18446744073709551616 := rfl
  rw [age, Int.bmod_eq_of_le (by omega) (by omega)]

end Shard

end ScrapeBridge.Cache
