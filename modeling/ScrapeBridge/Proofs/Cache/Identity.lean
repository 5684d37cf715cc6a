import ScrapeBridge.Proofs.Cache.History

namespace ScrapeBridge.Cache

/-- A shard has left the cache. -/
structure Left (c : Cache) (id : Nat) (s : Shard) : Prop where
  at_id : c.shards[id]? = some s
  unlinked : ∀ host, c.live.get? host ≠ some id
  retired : s.retired = true
  isEmpty : s.items.isEmpty = true

def Stores (c : Cache) (id : Nat) (sample : Sample) : Prop :=
  ∃ s key e, c.shards[id]? = some s ∧ s.items.get? key = some e ∧ e.sample = sample

namespace Shard

theorem accept?_of_retired {s : Shard} (h : s.retired = true) (sample : Sample) (now : Int) :
    s.accept? sample now = none := by
  rw [accept?, if_pos h]

theorem flush_of_isEmpty {s : Shard} (hretired : s.retired = true)
    (hempty : s.items.isEmpty = true) (now : Int) : s.flush now = s := by
  have hitems : s.items.filterMap (survivor? (s.expired now)) = s.items := by
    apply Table.ext_get?
    intro key
    rw [Table.get?_filterMap, (Table.isEmpty_iff _).mp hempty key, Option.bind_none]
  rw [flush, hitems, hretired, Bool.true_or, ← hretired]

end Shard

section

variable {c : Cache} (hc : c.WellFormed)

include hc in
theorem insert_cases (sample : Sample) (now : Int) :
    (∃ id s, c.live.get? sample.hostKey = some id ∧ c.shards[id]? = some s ∧
      c.insert sample now = { c with shards := c.shards.set id (s.merge sample now) }) ∨
    c.live.get? sample.hostKey = none ∧
      c.insert sample now =
        { c with
          shards := c.shards ++ [(Shard.create sample.hostKey c.timeToLive now).merge sample now]
          live := c.live.insert sample.hostKey c.shards.length } := by
  cases hf : c.find? sample.hostKey with
  | some p =>
    obtain ⟨id, s⟩ := p
    obtain ⟨hid, hs⟩ := find?_eq_some.mp hf
    have hserves := (serves_of_shard? hc (shard?_eq_some.mpr ⟨id, hid, hs⟩)).1
    exact .inl ⟨id, s, hid, hs, insert_of_linked hf hserves.live now⟩
  | none =>
    refine .inr ⟨?_, insert_of_absent hf now⟩
    rw [← shard?_eq_none hc, shard?, hf, Option.map_none]

theorem getElem?_flushedShards_of_unlinked {id : Nat}
    (hunlinked : ∀ host, c.live.get? host ≠ some id) (now : Int) :
    (c.flushedShards now)[id]? = c.shards[id]? := by
  have hany : c.live.entries.any (·.2 = id) = false := by
    rw [List.any_eq_false]
    rintro ⟨host, id'⟩ hm hid
    exact hunlinked host (of_decide_eq_true hid ▸ Table.mem_entries.mp hm)
  rw [flushedShards, List.getElem?_mapIdx]
  simp [hany]

include hc in
theorem live_of_live_afterFlush {now : Int} {host : String} {id : Nat}
    (h : (c.afterFlush now).live.get? host = some id) : c.live.get? host = some id := by
  cases hid : c.live.get? host with
  | none =>
    rw [live_afterFlush_of_none hid] at h
    cases h
  | some id' =>
    obtain ⟨s, hs, -⟩ := hc host id' hid
    rw [live_afterFlush hid hs] at h
    split at h <;> cases h
    rfl

include hc in
theorem WellFormed.host_unique {host host' : String} {id : Nat} (h : c.live.get? host = some id)
    (h' : c.live.get? host' = some id) : host = host' := by
  obtain ⟨s, hs, hserves, -⟩ := hc host id h
  obtain ⟨s', hs', hserves', -⟩ := hc host' id h'
  rw [hs] at hs'
  cases hs'
  exact hserves.host_eq.symm.trans hserves'.host_eq

include hc in
theorem length_shards_apply (e : Event) : c.shards.length ≤ (c.apply e).shards.length := by
  cases e with
  | insert sample now =>
    obtain ⟨id, s, -, -, heq⟩ | ⟨-, heq⟩ := insert_cases hc sample now <;> simp [apply, heq]
  | flush now useTimestamp => simp [apply, flush, Cache.afterFlush]

include hc in
/-- A shard that has left the cache stays as it is, and does not come back. -/
theorem Left.apply {id : Nat} {s : Shard} (h : c.Left id s) (e : Event) :
    (c.apply e).Left id s := by
  refine ⟨?_, ?_, h.retired, h.isEmpty⟩
  · cases e with
    | insert sample now =>
      obtain ⟨id', s', hid', -, heq⟩ | ⟨-, heq⟩ := insert_cases hc sample now
      · have hne : id' ≠ id := fun hid => h.unlinked _ (hid ▸ hid')
        simp [Cache.apply, heq, List.getElem?_set_ne hne, h.at_id]
      · have hlt := (List.getElem?_eq_some_iff.mp h.at_id).1
        simp [Cache.apply, heq, List.getElem?_append_left hlt, h.at_id]
    | flush now useTimestamp =>
      exact (getElem?_flushedShards_of_unlinked h.unlinked now).trans h.at_id
  · intro host
    cases e with
    | insert sample now =>
      obtain ⟨id', s', -, -, heq⟩ | ⟨-, heq⟩ := insert_cases hc sample now
      · simpa only [Cache.apply, heq] using h.unlinked host
      · have hlt := (List.getElem?_eq_some_iff.mp h.at_id).1
        simp only [Cache.apply, heq, Table.get?_insert]
        split
        · exact fun hid => absurd (Option.some.inj hid) (Nat.ne_of_gt hlt)
        · exact h.unlinked host
    | flush now useTimestamp => exact fun hid => h.unlinked host (live_of_live_afterFlush hc hid)

include hc in
theorem linked_apply {host : String} {id : Nat} (h : c.live.get? host = some id) (e : Event) :
    (c.apply e).live.get? host = some id ∨ ∃ s, (c.apply e).Left id s := by
  cases e with
  | insert sample now =>
    left
    obtain ⟨id', s', -, -, heq⟩ | ⟨hnone, heq⟩ := insert_cases hc sample now
    · simpa only [apply, heq] using h
    · have hne : sample.hostKey ≠ host := by
        rintro rfl
        rw [hnone] at h
        cases h
      simpa only [apply, heq, Table.get?_insert_of_ne _ _ hne] using h
  | flush now useTimestamp =>
    obtain ⟨s, hs, hserves, -⟩ := hc host id h
    have hlive := live_afterFlush h hs now
    split at hlive
    case isFalse => exact .inl hlive
    case isTrue hempty =>
      refine .inr ⟨s.flush now, getElem?_flushedShards h hs now, fun host' hid => ?_, ?_, hempty⟩
      · rw [hc.host_unique h (live_of_live_afterFlush hc hid)] at hlive
        cases hlive.symm.trans hid
      · rw [Shard.retired_flush, hempty, Bool.or_true]

theorem Shard.stores_of_merge {s : Shard} {sample : Sample} {now : Int} {key : String} {e : Entry}
    (h : (s.merge sample now).items.get? key = some e) :
    s.items.get? key = some e ∨ e.sample = sample := by
  rw [Shard.get?_merge] at h
  split at h
  · cases h
    exact .inr rfl
  · exact .inl h

include hc in
theorem stores_of_insert {id : Nat} {sample other : Sample} {now : Int}
    (h : (c.insert other now).Stores id sample) : c.Stores id sample ∨ sample = other := by
  obtain ⟨s, key, e, hs, he, rfl⟩ := h
  obtain ⟨id', s', -, hs', heq⟩ | ⟨-, heq⟩ := insert_cases hc other now
  · simp only [heq] at hs
    by_cases hid : id' = id
    · subst hid
      rw [List.getElem?_set_self (List.getElem?_eq_some_iff.mp hs').1] at hs
      cases hs
      exact (Shard.stores_of_merge he).imp_left fun he => ⟨s', key, e, hs', he, rfl⟩
    · rw [List.getElem?_set_ne hid] at hs
      exact .inl ⟨s, key, e, hs, he, rfl⟩
  · simp only [heq] at hs
    rcases Nat.lt_or_ge id c.shards.length with hlt | hge
    · rw [List.getElem?_append_left hlt] at hs
      exact .inl ⟨s, key, e, hs, he, rfl⟩
    · rw [List.getElem?_append_right hge, List.getElem?_singleton] at hs
      split at hs <;> cases hs
      exact (Shard.stores_of_merge he).imp_left fun he => by cases he

theorem stores_of_afterFlush {id : Nat} {sample : Sample} {now : Int}
    (h : (c.afterFlush now).Stores id sample) : c.Stores id sample := by
  obtain ⟨s, key, e, hs, he, rfl⟩ := h
  have hflushed : (c.flushedShards now)[id]? = some s := hs
  rw [flushedShards, List.getElem?_mapIdx, Option.map_eq_some_iff] at hflushed
  obtain ⟨s', hs', hflushed⟩ := hflushed
  split at hflushed
  · subst hflushed
    rw [Shard.get?_flush, Option.bind_eq_some_iff] at he
    obtain ⟨e', he', hsurvivor⟩ := he
    exact ⟨s', key, e', hs', he', (Shard.sample_of_survivor? hsurvivor).1.symm⟩
  · subst hflushed
    exact ⟨s', key, e, hs', he, rfl⟩

include hc in
theorem stores_of_apply {id : Nat} {sample : Sample} {e : Event}
    (h : (c.apply e).Stores id sample) : c.Stores id sample ∨ ∃ t, e = .insert sample t := by
  cases e with
  | insert other now =>
    rcases stores_of_insert hc h with hstores | rfl
    · exact .inl hstores
    · exact .inr ⟨now, rfl⟩
  | flush now useTimestamp => exact .inl (stores_of_afterFlush h)

include hc in
theorem length_shards_run (later : List Event) :
    c.shards.length ≤ (c.run later).shards.length := by
  induction later using List.reverseRecOn with
  | nil => exact Nat.le_refl _
  | append_singleton later e ih =>
    rw [run_append]
    exact Nat.le_trans ih (length_shards_apply (hc.run later) e)

include hc in
theorem Left.run {id : Nat} {s : Shard} (h : c.Left id s) (later : List Event) :
    (c.run later).Left id s := by
  induction later using List.reverseRecOn with
  | nil => exact h
  | append_singleton later e ih =>
    rw [run_append]
    exact ih.apply (hc.run later) e

include hc in
theorem linked_run {host : String} {id : Nat} (h : c.live.get? host = some id)
    (later : List Event) :
    (c.run later).live.get? host = some id ∨ ∃ s, (c.run later).Left id s := by
  induction later using List.reverseRecOn with
  | nil => exact .inl h
  | append_singleton later e ih =>
    rw [run_append]
    rcases ih with hlinked | ⟨s, hleft⟩
    · exact linked_apply (hc.run later) hlinked e
    · exact .inr ⟨s, hleft.apply (hc.run later) e⟩

include hc in
theorem stores_of_run {id : Nat} {sample : Sample} {later : List Event}
    (h : (c.run later).Stores id sample) :
    c.Stores id sample ∨ ∃ t, .insert sample t ∈ later := by
  induction later using List.reverseRecOn with
  | nil => exact .inl h
  | append_singleton later e ih =>
    rw [run_append] at h
    rcases stores_of_apply (hc.run later) h with hstored | ⟨t, rfl⟩
    · exact (ih hstored).imp_right fun ⟨t, ht⟩ => ⟨t, List.mem_append_left _ ht⟩
    · exact .inr ⟨t, by simp⟩

include hc in
theorem live_insert_of_none {sample : Sample} (h : c.live.get? sample.hostKey = none) (now : Int) :
    (c.insert sample now).live.get? sample.hostKey = some c.shards.length := by
  obtain ⟨id, s, hid, -⟩ | ⟨-, heq⟩ := insert_cases hc sample now
  · rw [h] at hid
    cases hid
  · simp only [heq, Table.get?_insert_self]

end

/-- Every host is linked to an open shard of its own, which holds something and knows when the host
was last heard of. A shard that was once linked is the host's still, or it has left the cache, empty
and retired; then it stays as it is, also when somebody who has kept it uses it, and it does not come
back. The next sample for a host without a shard makes a shard that there has not been before; what
is in that shard has come in since. -/
theorem shards_keep_identity (seconds : Nat) (events : List Event) :
    let c := (create seconds).run events
    (∀ host id, c.live.get? host = some id →
      ∃ s, c.shards[id]? = some s ∧ s.retired = false ∧ s.items.isEmpty = false ∧ s.host = host ∧
        lastContact? host events = some s.lastAccess) ∧
    (∀ past, past <+: events → ∀ host id, ((create seconds).run past).live.get? host = some id →
      id < c.shards.length ∧
      (c.live.get? host = some id ∨ ∃ s, c.Left id s ∧ (∀ later, (c.run later).Left id s) ∧
        ∀ sample t, s.accept? sample t = none ∧ s.flush t = s)) ∧
    ∀ sample now, c.live.get? sample.hostKey = none →
      (c.insert sample now).live.get? sample.hostKey = some c.shards.length ∧
      ∀ later sample', ((c.insert sample now).run later).Stores c.shards.length sample' →
        ∃ t, .insert sample' t ∈ .insert sample now :: later := by
  intro c
  have hc : c.WellFormed := (wellFormed_create seconds).run events
  refine ⟨fun host id hid => ?_, ?_, fun sample now hnone => ⟨live_insert_of_none hc hnone now, ?_⟩⟩
  · obtain ⟨s, hs, hserves, hempty⟩ := hc host id hid
    have hcontact := inContact_run seconds events host s (shard?_eq_some.mpr ⟨id, hid, hs⟩)
    exact ⟨s, hs, hserves.live, hempty, hserves.host_eq, hcontact⟩
  · rintro past ⟨since, rfl⟩ host id hid
    have hpast := (wellFormed_create seconds).run past
    have hc' : c = ((create seconds).run past).run since := List.foldl_append
    obtain ⟨s, hs, -⟩ := hpast host id hid
    refine ⟨?_, ?_⟩
    · rw [hc']
      exact Nat.lt_of_lt_of_le (List.getElem?_eq_some_iff.mp hs).1 (length_shards_run hpast since)
    · rw [hc']
      refine (linked_run hpast hid since).imp_right fun ⟨s, hleft⟩ => ?_
      refine ⟨s, hleft, hleft.run (hpast.run since), fun sample t => ⟨?_, ?_⟩⟩
      · exact Shard.accept?_of_retired hleft.retired sample t
      · exact Shard.flush_of_isEmpty hleft.retired hleft.isEmpty t
  · -- The new shard's number is one that no shard had, so nothing can be in it from before.
    intro later sample' hstored
    have hrun : (c.run (.insert sample now :: later)).Stores c.shards.length sample' := hstored
    refine (stores_of_run hc hrun).resolve_left ?_
    rintro ⟨s, key, e, hs, -⟩
    rw [List.getElem?_eq_none (Nat.le_refl _)] at hs
    cases hs

end ScrapeBridge.Cache
