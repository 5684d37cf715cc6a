import ScrapeBridge.Proofs.Table
import ScrapeBridge.SelfMetrics

namespace ScrapeBridge

namespace Counters

open Text (fingerprint)

/-- What a counter reads when it has counted to `n`, one by one. -/
def tally (n : Nat) : Float := n.repeat (· + 1) 0

variable (c : Counters)

theorem fingerprint_owner (endpoint : String) :
    fingerprint (c.owner endpoint) = fingerprint endpoint := by
  unfold owner
  cases h : c.keys.find? (fingerprint · = fingerprint endpoint) with
  | none => rfl
  | some k => simpa using List.find?_some h

theorem read_congr {e e' : String} (h : fingerprint e = fingerprint e') : c.read e = c.read e' := by
  unfold read owner
  rw [h]
  cases hfind : c.keys.find? (fingerprint · = fingerprint e') with
  | some k => rfl
  | none =>
    have habsent : ∀ k, fingerprint k = fingerprint e' → c.get? k = none := by
      intro k hk
      rw [Option.eq_none_iff_forall_not_mem]
      intro v hv
      have hmem : k ∈ c.keys := List.mem_map.mpr ⟨(k, v), Table.mem_entries.mpr hv, rfl⟩
      exact List.find?_eq_none.mp hfind k hmem (by simp [hk])
    rw [Option.getD_none, Option.getD_none, habsent e h, habsent e' rfl]

theorem read_insert_owner (e e' : String) (v : Float) :
    Counters.read (c.insert (c.owner e) v) e' =
      if fingerprint e = fingerprint e' then v else c.read e' := by
  have hfp := c.fingerprint_owner e
  by_cases h : fingerprint e = fingerprint e'
  · have howner : Counters.owner (c.insert (c.owner e) v) e' = c.owner e := by
      rw [owner, Table.find?_keys_insert_of_true (by simp [hfp, h]), Option.getD_some]
      intro k hk
      rw [owner, h, hk, Option.getD_some]
    rw [if_pos h, read, howner, Table.get?_insert_self, Option.getD_some]
  · have howner : Counters.owner (c.insert (c.owner e) v) e' = c.owner e' := by
      rw [owner, Table.find?_keys_insert_of_false (by simp [hfp, h]), owner]
    have hne : c.owner e ≠ c.owner e' := by
      intro heq
      rw [heq, c.fingerprint_owner e'] at hfp
      exact h hfp.symm
    rw [if_neg h, read, howner, Table.get?_insert_of_ne _ _ hne, read]

theorem read_add (e e' : String) (amount : Float) :
    (c.add e amount).read e' =
      if fingerprint e = fingerprint e' then c.read e' + amount else c.read e' := by
  rw [add, read_insert_owner]
  split
  case isTrue h => rw [c.read_congr h]
  case isFalse => rfl

@[simp] theorem read_touch (e e' : String) : (c.touch e).read e' = c.read e' := by
  unfold touch Table.insertIfNew
  split
  case isTrue => rfl
  case isFalse habsent =>
    rw [read_insert_owner]
    split
    case isFalse => rfl
    case isTrue h =>
      rw [← c.read_congr h, read, Option.not_isSome_iff_eq_none.mp habsent, Option.getD_none]

@[simp] theorem read_empty (e : String) : Counters.read ∅ e = tally 0 := rfl

theorem tally_add (m n : Nat) : tally (m + n) = n.repeat (· + 1) (tally m) := by
  induction n with
  | zero => rfl
  | succ n ih => exact congrArg (· + 1) ih

theorem read_tick (e e' : String) (n : Nat) :
    (c.tick e n).read e' =
      if fingerprint e = fingerprint e' then n.repeat (· + 1) (c.read e') else c.read e' := by
  induction n with
  | zero => split <;> rfl
  | succ n ih =>
    rw [show c.tick e (n + 1) = (c.tick e n).add e 1 from rfl, read_add, ih]
    split <;> rfl

end Counters

end ScrapeBridge
