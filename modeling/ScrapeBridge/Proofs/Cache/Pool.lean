import Mathlib.Data.List.Nodup
import ScrapeBridge.Cache.Pool

namespace ScrapeBridge.Cache.Pool

/-- A pool and the numbers of the buffers that others have. -/
structure Lends (p : Pool) (out : List Nat) : Prop where
  empty : ∀ b ∈ p.free, b.sample = none
  bounded : p.free.length ≤ p.capacity
  nodup : (p.free.map (·.id) ++ out).Nodup
  made : ∀ id ∈ p.free.map (·.id) ++ out, id < p.made

section

variable {p : Pool} {out out' : List Nat}

theorem lends_create (capacity : Nat) : (create capacity).Lends [] where
  empty := by intro b hb; cases hb
  bounded := Nat.zero_le _
  nodup := .nil
  made := by intro id hid; cases hid

theorem Lends.perm (h : p.Lends out) (hperm : out'.Perm out) : p.Lends out' where
  empty := h.empty
  bounded := h.bounded
  nodup := (hperm.append_left _).nodup_iff.mpr h.nodup
  made := fun id hid => h.made id ((hperm.append_left _).mem_iff.mp hid)

/-- A buffer that is not given back is of no more account. -/
theorem Lends.sublist (h : p.Lends out) (hsub : out'.Sublist out) : p.Lends out' where
  empty := h.empty
  bounded := h.bounded
  nodup := h.nodup.sublist (hsub.append_left _)
  made := fun id hid => h.made id ((hsub.append_left _).subset hid)

theorem Lends.of_subperm {held held' : List Buffer} (h : p.Lends (held.map (·.id)))
    (hsub : held'.Subperm held) : p.Lends (held'.map (·.id)) := by
  obtain ⟨l, hperm, hsublist⟩ := hsub
  exact (h.sublist (hsublist.map _)).perm (hperm.symm.map _)

theorem Lends.make (h : p.Lends out) : p.make.2.Lends (p.make.1.id :: out) where
  empty := h.empty
  bounded := h.bounded
  nodup := by
    refine List.perm_middle.nodup_iff.mpr (List.nodup_cons.mpr ⟨?_, h.nodup⟩)
    exact fun hmem => Nat.lt_irrefl _ (h.made _ hmem)
  made := by
    intro id hid
    rcases List.mem_cons.mp (List.perm_middle.mem_iff.mp hid) with rfl | hid
    · exact Nat.lt_succ_self _
    · exact Nat.lt_succ_of_lt (h.made id hid)

theorem Lends.acquire (h : p.Lends out) :
    p.acquire.1.sample = none ∧ p.acquire.2.Lends (p.acquire.1.id :: out) := by
  unfold Pool.acquire
  split
  case h_1 b free hfree =>
    have hempty := h.empty
    have hbounded := h.bounded
    have hnodup := h.nodup
    have hmade := h.made
    rw [hfree] at hempty hbounded hnodup hmade
    refine ⟨hempty b (.head _), fun c hc => hempty c (.tail _ hc), ?_, ?_, ?_⟩
    · exact Nat.le_of_succ_le hbounded
    · exact List.perm_middle.nodup_iff.mpr hnodup
    · exact fun id hid => hmade id (List.perm_middle.mem_iff.mp hid)
  case h_2 => exact ⟨rfl, h.make⟩

theorem Lends.release {b : Buffer} (h : p.Lends (b.id :: out)) : (p.release b).Lends out := by
  unfold Pool.release
  split
  case isTrue hroom =>
    refine ⟨?_, ?_, ?_, ?_⟩
    · intro c hc
      rcases List.mem_append.mp hc with hc | hc
      · exact h.empty c hc
      · rw [List.mem_singleton.mp hc]
    · rw [List.length_append]
      exact hroom
    · simpa using h.nodup
    · simpa using h.made
  case isFalse => exact h.sublist (List.sublist_cons_self _ _)

theorem ofCapacity_eq {capacity : Nat} (h : 0 < capacity) :
    ofCapacity capacity =
      if largestCapacity < capacity then .error .tooLarge else .ok (create capacity) :=
  if_neg (Nat.ne_of_gt h)

theorem capacity_acquire (p : Pool) : p.acquire.2.capacity = p.capacity := by
  unfold acquire
  split <;> rfl

theorem available_acquire (p : Pool) :
    p.acquire.2.available = if p.available = 0 then p.available else p.available - 1 := by
  unfold acquire
  split
  case h_1 b free hfree => simp [available, hfree]
  case h_2 hfree => simp [available, make, hfree]

theorem capacity_release (p : Pool) (b : Buffer) : (p.release b).capacity = p.capacity := by
  unfold release
  split <;> rfl

theorem available_release (h : p.available ≤ p.capacity) (b : Buffer) :
    (p.release b).available =
      if p.available = p.capacity then p.available else p.available + 1 := by
  unfold available at h ⊢
  unfold release
  split
  case isTrue hroom => rw [if_neg (Nat.ne_of_lt hroom), List.length_append, List.length_singleton]
  case isFalse hfull => rw [if_pos (Nat.le_antisymm h (Nat.le_of_not_lt hfull))]

end

end ScrapeBridge.Cache.Pool
