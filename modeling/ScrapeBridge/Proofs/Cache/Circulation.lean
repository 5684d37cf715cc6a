import Mathlib.Data.List.Perm.Subperm
import ScrapeBridge.Proofs.Cache.Recycling

namespace ScrapeBridge.Cache

/-- A pool with the buffers that are outside of its list, wherever these are from. -/
structure Circulation where
  pool : Pool
  held : List Buffer := []

namespace Circulation

inductive Use where
  | acquire
  /-- A buffer that is not from the pool comes into somebody's hands: a new one, or one of another
  pool. -/
  | bring (sample : Option Sample)
  /-- Somebody puts a sample into a buffer that he has, or takes the one in it out. -/
  | fill (place : Nat) (sample : Option Sample)
  | release (place : Nat)

def Use.place? : Use → Option Nat
  | acquire => none
  | bring _ => none
  | fill place _ => some place
  | release place => some place

/-- Nobody can use a buffer that he does not have. -/
def use? (c : Circulation) : Use → Option Circulation
  | .acquire => some { pool := c.pool.acquire.2, held := c.pool.acquire.1 :: c.held }
  | .bring sample =>
    some { pool := c.pool.make.2, held := { c.pool.make.1 with sample } :: c.held }
  | .fill place sample =>
    c.held[place]?.map fun b => { c with held := c.held.set place { b with sample } }
  | .release place =>
    c.held[place]?.map fun b => { pool := c.pool.release b, held := c.held.eraseIdx place }

def run? (c : Circulation) (uses : List Use) : Option Circulation := uses.foldlM use? c

/-- How many buffers are in a list after it was used, if there were `n` before: one more for a
release unless it is full, one less for an acquire unless it is empty. -/
def Use.level (capacity n : Nat) : Use → Nat
  | acquire => if n = 0 then n else n - 1
  | bring _ => n
  | fill _ _ => n
  | release _ => if n = capacity then n else n + 1

def level (capacity : Nat) (uses : List Use) : Nat := uses.foldl (Use.level capacity) 0

section

variable {c c' : Circulation} {capacity n place : Nat} {held : List Buffer} {b : Buffer}

theorem map_id_set (h : held[place]? = some b) (sample : Option Sample) :
    (held.set place { b with sample }).map (·.id) = held.map (·.id) := by
  obtain ⟨hplace, rfl⟩ := List.getElem?_eq_some_iff.mp h
  have hmap : place < (held.map (·.id)).length := by rwa [List.length_map]
  calc (held.set place { held[place] with sample }).map (·.id)
      = (held.map (·.id)).set place held[place].id := List.map_set
    _ = (held.map (·.id)).set place (held.map (·.id))[place] := by rw [List.getElem_map]
    _ = held.map (·.id) := List.set_getElem_self hmap

theorem perm_eraseIdx (h : held[place]? = some b) : held.Perm (b :: held.eraseIdx place) := by
  obtain ⟨hplace, rfl⟩ := List.getElem?_eq_some_iff.mp h
  exact (List.getElem_cons_eraseIdx_perm hplace).symm

theorem isSome_use?_iff (c : Circulation) (u : Use) :
    (c.use? u).isSome ↔ ∀ place ∈ u.place?, place < c.held.length := by
  cases u <;> simp [use?, Use.place?]

/-- A pool whose buffers are in one place each, with so many in its list. -/
structure Kept (capacity n : Nat) (c : Circulation) : Prop where
  lends : c.pool.Lends (c.held.map (·.id))
  capacity : c.pool.capacity = capacity
  available : c.pool.available = n

theorem kept_create (capacity : Nat) : Kept capacity 0 { pool := .create capacity } where
  lends := Pool.lends_create capacity
  capacity := rfl
  available := rfl

theorem Kept.use (h : c.Kept capacity n) {u : Use} (hu : c.use? u = some c') :
    c'.Kept capacity (u.level capacity n) := by
  cases u with
  | acquire =>
    cases hu
    refine ⟨h.lends.acquire.2, (Pool.capacity_acquire _).trans h.capacity, ?_⟩
    rw [Pool.available_acquire, h.available]
    rfl
  | bring sample =>
    cases hu
    exact ⟨h.lends.make, h.capacity, h.available⟩
  | fill place sample =>
    obtain ⟨b, hb, rfl⟩ := Option.map_eq_some_iff.mp hu
    refine ⟨?_, h.capacity, h.available⟩
    rw [map_id_set hb]
    exact h.lends
  | release place =>
    obtain ⟨b, hb, rfl⟩ := Option.map_eq_some_iff.mp hu
    refine ⟨?_, (Pool.capacity_release _ b).trans h.capacity, ?_⟩
    · exact Pool.Lends.release (h.lends.perm ((perm_eraseIdx hb).symm.map _))
    · rw [Pool.available_release h.lends.bounded, h.available, h.capacity]
      rfl

theorem Kept.run (h : c.Kept capacity n) {uses : List Use} (hrun : c.run? uses = some c') :
    c'.Kept capacity (uses.foldl (Use.level capacity) n) := by
  induction uses generalizing c n with
  | nil => cases hrun; exact h
  | cons u uses ih =>
    obtain ⟨d, hd, hlater⟩ := Option.bind_eq_some_iff.mp hrun
    exact ih (h.use hd) hlater

end

def Reaches (c d : Circulation) : Prop := ∃ uses, c.run? uses = some d

theorem Reaches.refl (c : Circulation) : c.Reaches c := ⟨[], rfl⟩

theorem Reaches.trans {c d e : Circulation} (h : c.Reaches d) (h' : d.Reaches e) : c.Reaches e := by
  obtain ⟨uses, hd⟩ := h
  obtain ⟨uses', he⟩ := h'
  refine ⟨uses ++ uses', ?_⟩
  rw [run?, List.foldlM_append, ← run?, hd]
  exact he

/-- Buffers go round empty, and each is in one place. What has been done up to some time is a run as
well, so that this holds at all times. -/
theorem run_recycles_empty (capacity : Nat) (hcapacity : 0 < capacity) :
    (Pool.ofCapacity capacity =
      if Pool.largestCapacity < capacity then .error .tooLarge else .ok (.create capacity)) ∧
    ∀ (uses : List Use) (c : Circulation), run? { pool := .create capacity } uses = some c →
      (∀ b ∈ c.pool.free, b.sample = none) ∧
      (∃ b pool, c.use? .acquire = some { pool, held := b :: c.held } ∧ b.sample = none) ∧
      c.pool.available ≤ capacity ∧
      c.pool.available = level capacity uses ∧
      (c.pool.free.map (·.id)).Nodup ∧
      (c.held.map (·.id)).Nodup ∧
      (c.pool.free.map (·.id)).Disjoint (c.held.map (·.id)) ∧
      ∀ u, (c.use? u).isSome ↔ ∀ place ∈ u.place?, place < c.held.length := by
  refine ⟨Pool.ofCapacity_eq hcapacity, fun uses c hrun => ?_⟩
  have h : c.Kept capacity (level capacity uses) := (kept_create capacity).run hrun
  obtain ⟨hfree, hheld, hdisjoint⟩ := List.nodup_append'.mp h.lends.nodup
  have hbounded : c.pool.available ≤ capacity := h.capacity ▸ h.lends.bounded
  exact ⟨h.lends.empty, ⟨_, _, rfl, h.lends.acquire.1⟩, hbounded, h.available, hfree, hheld,
    hdisjoint, c.isSome_use?_iff⟩

/-- A buffer from elsewhere takes the only place, with what it carried gone; the one that was
acquired is filled and finds no room. -/
theorem run_recycles_empty_of_full_list :
    ∃ c : Circulation,
      let s : Sample := .collectd { host := "h", plugin := "a", type := "a" }
      let uses : List Use :=
        [.acquire, .bring (some s), .fill 1 (some s), .release 0, .release 0]
      0 < 1 ∧ run? { pool := .create 1 } uses = some c ∧
      c.pool.free.map (·.id) = [1] ∧ (∀ b ∈ c.pool.free, b.sample = none) ∧
      c.pool.available = level 1 uses ∧ level 1 uses = 1 := by
  let s : Sample := .collectd { host := "h", plugin := "a", type := "a" }
  let uses : List Use := [.acquire, .bring (some s), .fill 1 (some s), .release 0, .release 0]
  obtain ⟨hempty, -, -, hlevel, -⟩ := (run_recycles_empty 1 Nat.one_pos).2 uses _ rfl
  exact ⟨_, Nat.one_pos, rfl, rfl, hempty, hlevel, rfl⟩

end Circulation

end ScrapeBridge.Cache

namespace ScrapeBridge.Intake

open Cache (Buffer Pool Circulation)

structure Draws (i : Intake) (c : Circulation) : Prop where
  pool : c.pool = i.pool
  held : i.buffers.Subperm c.held

section

variable {i j : Intake} {c : Circulation}

theorem Draws.put (h : i.Draws c) (s : Sample) : ∃ d, c.Reaches d ∧ (i.put s).Draws d := by
  refine ⟨_, ⟨[.acquire, .fill 0 (some s)], rfl⟩, ?_, ?_⟩
  · rw [put_eq_enter, pool_enter, ← h.pool]
  · rw [put_eq_enter, ← h.pool]
    exact (buffers_enter _).trans ((List.subperm_cons _).mpr h.held)

theorem Draws.move (h : i.Draws c) {now : Int} (hmove : i.Move now j) :
    ∃ d, c.Reaches d ∧ j.Draws d := by
  rcases hmove.buffers_cases with ⟨hpool, hsub⟩ | ⟨b, hpool, hbuffers⟩
  · exact ⟨c, .refl c, h.pool.trans hpool.symm, hsub.trans h.held⟩
  · have hheld : (b :: j.buffers).Subperm c.held := hbuffers ▸ h.held
    obtain ⟨place, hb⟩ := List.mem_iff_getElem?.mp (hheld.subset (.head _))
    refine ⟨{ pool := c.pool.release b, held := c.held.eraseIdx place }, ⟨[.release place], ?_⟩,
      ?_, ?_⟩
    · simp [Circulation.run?, Circulation.use?, hb]
    · rw [hpool, h.pool]
    · exact (List.subperm_cons b).mp (hheld.trans (Circulation.perm_eraseIdx hb).subperm)

theorem Draws.getD (h : i.Draws c) {o : Option Intake} {now : Int}
    (ho : ∀ j, o = some j → i.Move now j) : ∃ d, c.Reaches d ∧ (o.getD i).Draws d := by
  cases o with
  | none => exact ⟨c, .refl c, h⟩
  | some j => exact h.move (ho j rfl)

theorem Draws.start (h : i.Draws c) : (i.start.getD i).Draws c := by
  unfold Intake.start
  split <;> exact ⟨h.pool, h.held⟩

theorem Draws.apply (h : i.Draws c) (e : Event) : ∃ d, c.Reaches d ∧ (i.apply e).Draws d := by
  cases e with
  | put s => exact h.put s
  | start => exact ⟨c, .refl c, h.start⟩
  | stop => exact ⟨c, .refl c, h.pool, h.held⟩
  | work now stopFirst => exact h.getD fun j hj => move_of_work? hj
  | letIn => exact h.getD fun j hj => move_of_letIn? hj 0
  | flush now useTimestamp => exact ⟨c, .refl c, h.pool, h.held⟩
  | borrow =>
    refine ⟨_, ⟨[.acquire], rfl⟩, ?_, ?_⟩
    · exact congrArg (·.acquire.2) h.pool
    · exact h.held.trans (List.sublist_cons_self _ _).subperm
  | donate sample =>
    refine ⟨_, ⟨[.bring sample, .release 0], rfl⟩, ?_, h.held⟩
    rw [h.pool]
    rfl

end

/-- Whatever happens to an intake, it uses its pool like anybody else: it gives back only buffers
that it has. -/
theorem run_draws (seconds : Nat) (events : List Event) :
    ∃ c, Circulation.Reaches { pool := .create capacity } c ∧
      ((create seconds).run events).Draws c := by
  induction events using List.reverseRecOn with
  | nil => exact ⟨_, .refl _, rfl, .refl _⟩
  | append_singleton events e ih =>
    obtain ⟨c, hc, hdraws⟩ := ih
    obtain ⟨d, hd, hafter⟩ := hdraws.apply e
    rw [run_concat]
    exact ⟨d, hc.trans hd, hafter⟩

end ScrapeBridge.Intake
