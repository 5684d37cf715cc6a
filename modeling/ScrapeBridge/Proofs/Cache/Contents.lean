import Mathlib.Data.List.Basic
import ScrapeBridge.Cache.Basic
import ScrapeBridge.Proofs.Cache.Shard

namespace ScrapeBridge.Cache

def shard? (c : Cache) (host : String) : Option Shard := (c.find? host).map (·.2)

def item? (c : Cache) (host key : String) : Option Entry :=
  (c.shard? host).bind (·.items.get? key)

/-- All entries that the cache holds for an item of a host, wherever they are. -/
def held (c : Cache) (host key : String) : List Entry :=
  (c.liveShards.filter (·.host = host)).flatMap fun s =>
    (s.items.entries.filter (·.1 = key)).map (·.2)

namespace Shard

/-- A shard that takes in the samples of a host, and has every one of them at its item key. -/
structure Serves (s : Shard) (timeToLive : Int) (host : String) : Prop where
  host_eq : s.host = host
  timeToLive_eq : s.timeToLive = timeToLive
  live : s.retired = false
  filed : ∀ key e, s.items.get? key = some e → e.sample.hostKey = host ∧ e.sample.itemKey = key

theorem serves_create (host : String) (timeToLive now : Int) :
    (create host timeToLive now).Serves timeToLive host where
  host_eq := rfl
  timeToLive_eq := rfl
  live := rfl
  filed := by intro key e h; cases h

theorem Serves.merge {s : Shard} {timeToLive : Int} {host : String} (hs : s.Serves timeToLive host)
    {sample : Sample} (h : sample.hostKey = host) (now : Int) :
    (s.merge sample now).Serves timeToLive host where
  host_eq := hs.host_eq
  timeToLive_eq := hs.timeToLive_eq
  live := hs.live
  filed := by
    intro key e he
    rw [get?_merge] at he
    split at he
    case isTrue hk => cases he; exact ⟨h, hk⟩
    case isFalse hk => exact hs.filed key e he

theorem sample_of_survivor? {expired : Bool} {e e' : Entry} (h : survivor? expired e = some e') :
    e'.sample = e.sample ∧ e'.isNew = false := by
  unfold survivor? at h
  split at h
  · cases h; exact ⟨rfl, rfl⟩
  case isFalse hn =>
    split at h <;> cases h
    exact ⟨rfl, Bool.eq_false_iff.mpr hn⟩

theorem Serves.flush {s : Shard} {timeToLive : Int} {host : String} (hs : s.Serves timeToLive host)
    {now : Int} (h : (s.flush now).items.isEmpty = false) :
    (s.flush now).Serves timeToLive host where
  host_eq := hs.host_eq
  timeToLive_eq := hs.timeToLive_eq
  live := by
    rw [retired_flush, hs.live, h]
    rfl
  filed := by
    intro key e he
    rw [get?_flush, Option.bind_eq_some_iff] at he
    obtain ⟨d, hd, hde⟩ := he
    rw [(sample_of_survivor? hde).1]
    exact hs.filed key d hd

end Shard

/-- Every host is linked to a shard of its own that holds something. -/
def WellFormed (c : Cache) : Prop :=
  ∀ host id, c.live.get? host = some id →
    ∃ s, c.shards[id]? = some s ∧ s.Serves c.timeToLive host ∧ s.items.isEmpty = false

theorem wellFormed_create (seconds : Nat) : (create seconds).WellFormed := by
  intro host id h
  cases h

section

variable {c : Cache} (hc : c.WellFormed)

theorem find?_eq_some {host : String} {id : Nat} {s : Shard} :
    c.find? host = some (id, s) ↔ c.live.get? host = some id ∧ c.shards[id]? = some s := by
  simp only [find?, bind, pure, Option.bind_eq_some_iff, Option.some.injEq, Prod.mk.injEq]
  constructor
  · rintro ⟨id', hid, s', hs, rfl, rfl⟩
    exact ⟨hid, hs⟩
  · rintro ⟨hid, hs⟩
    exact ⟨id, hid, s, hs, rfl, rfl⟩

theorem shard?_eq_some {host : String} {s : Shard} :
    c.shard? host = some s ↔ ∃ id, c.live.get? host = some id ∧ c.shards[id]? = some s := by
  simp [shard?, Option.map_eq_some_iff, find?_eq_some]

include hc in
theorem serves_of_shard? {host : String} {s : Shard} (h : c.shard? host = some s) :
    s.Serves c.timeToLive host ∧ s.items.isEmpty = false := by
  obtain ⟨id, hid, hs⟩ := shard?_eq_some.mp h
  obtain ⟨s', hs', hserves⟩ := hc host id hid
  rw [hs] at hs'
  cases hs'
  exact hserves

include hc in
theorem shard?_eq_none {host : String} : c.shard? host = none ↔ c.live.get? host = none := by
  constructor
  · intro h
    by_contra hl
    obtain ⟨id, hid⟩ := Option.ne_none_iff_exists'.mp hl
    obtain ⟨s, hs, -⟩ := hc host id hid
    rw [shard?_eq_some.mpr ⟨id, hid, hs⟩] at h
    cases h
  · intro h
    rw [Option.eq_none_iff_forall_not_mem]
    intro s hs
    obtain ⟨id, hid, -⟩ := shard?_eq_some.mp hs
    rw [h] at hid
    cases hid

theorem insert_of_linked {sample : Sample} {id : Nat} {s : Shard}
    (h : c.find? sample.hostKey = some (id, s)) (hr : s.retired = false) (now : Int) :
    c.insert sample now = { c with shards := c.shards.set id (s.merge sample now) } := by
  simp [insert, insertWithin, obtain, h, hr, Shard.accept?_of_live hr]

theorem insert_of_absent {sample : Sample} (h : c.find? sample.hostKey = none) (now : Int) :
    c.insert sample now =
      { c with
        shards := c.shards ++ [(Shard.create sample.hostKey c.timeToLive now).merge sample now]
        live := c.live.insert sample.hostKey c.shards.length } := by
  have hr : (Shard.create sample.hostKey c.timeToLive now).retired = false := rfl
  simp [insert, insertWithin, obtain, h, Shard.accept?_of_live hr]

include hc in
/-- After an insert the sample is in its host's shard; all other hosts have the shard they had. -/
theorem shard?_insert (sample : Sample) (now : Int) (host : String) :
    (c.insert sample now).shard? host =
      if sample.hostKey = host then
        some (((c.shard? host).getD (.create host c.timeToLive now)).merge sample now)
      else c.shard? host := by
  cases hf : c.find? sample.hostKey with
  | some p =>
    obtain ⟨id, s⟩ := p
    obtain ⟨hid, hs⟩ := find?_eq_some.mp hf
    have hshard : c.shard? sample.hostKey = some s := shard?_eq_some.mpr ⟨id, hid, hs⟩
    obtain ⟨hserves, -⟩ := serves_of_shard? hc hshard
    have hlt : id < c.shards.length := (List.getElem?_eq_some_iff.mp hs).1
    rw [insert_of_linked hf hserves.live]
    apply Option.ext
    intro t
    split
    case isTrue hh =>
      subst hh
      rw [shard?_eq_some, hshard]
      simp [hid, List.getElem?_set_self hlt]
    case isFalse hh =>
      rw [shard?_eq_some, shard?_eq_some]
      refine exists_congr fun id' => and_congr_right fun hid' => ?_
      -- A shard is of one host, so that another host's link leads to another shard.
      have hne : id ≠ id' := by
        rintro rfl
        obtain ⟨s', hs', hserves', -⟩ := hc host id hid'
        rw [hs] at hs'
        cases hs'
        exact hh (hserves.host_eq.symm.trans hserves'.host_eq)
      simp [List.getElem?_set_ne hne]
  | none =>
    have hl : c.live.get? sample.hostKey = none := by
      rw [← shard?_eq_none hc, shard?, hf, Option.map_none]
    rw [insert_of_absent hf]
    apply Option.ext
    intro t
    rw [shard?_eq_some]
    simp only [Table.get?_insert]
    split
    case isTrue hh =>
      subst hh
      rw [(shard?_eq_none hc).mpr hl]
      simp
    case isFalse hh =>
      rw [shard?_eq_some]
      refine exists_congr fun id' => and_congr_right fun hid' => ?_
      obtain ⟨s', hs', -⟩ := hc host id' hid'
      have hlt : id' < c.shards.length := (List.getElem?_eq_some_iff.mp hs').1
      rw [List.getElem?_append_left hlt]

include hc in
theorem WellFormed.insert (sample : Sample) (now : Int) : (c.insert sample now).WellFormed := by
  cases hf : c.find? sample.hostKey with
  | some p =>
    obtain ⟨id, s⟩ := p
    obtain ⟨hid, hs⟩ := find?_eq_some.mp hf
    obtain ⟨s', hs', hserves, -⟩ := hc sample.hostKey id hid
    rw [hs] at hs'
    cases hs'
    have hlt : id < c.shards.length := (List.getElem?_eq_some_iff.mp hs).1
    rw [insert_of_linked hf hserves.live]
    intro host id' hid'
    obtain ⟨s', hs', hserves', hne'⟩ := hc host id' hid'
    by_cases h : id = id'
    · subst h
      rw [hs] at hs'
      cases hs'
      refine ⟨s.merge sample now, List.getElem?_set_self hlt, ?_, s.isEmpty_merge sample now⟩
      exact hserves'.merge (hserves.host_eq.symm.trans hserves'.host_eq) now
    · exact ⟨s', (List.getElem?_set_ne h).trans hs', hserves', hne'⟩
  | none =>
    rw [insert_of_absent hf]
    intro host id' hid'
    rw [Table.get?_insert] at hid'
    split at hid'
    case isTrue hh =>
      cases hid'
      subst hh
      refine ⟨(Shard.create sample.hostKey c.timeToLive now).merge sample now, by simp, ?_,
        Shard.isEmpty_merge _ sample now⟩
      exact (Shard.serves_create _ c.timeToLive now).merge rfl now
    case isFalse hh =>
      obtain ⟨s', hs', hserves'⟩ := hc host id' hid'
      have hlt : id' < c.shards.length := (List.getElem?_eq_some_iff.mp hs').1
      exact ⟨s', (List.getElem?_append_left hlt).trans hs', hserves'⟩

def flushedShards (c : Cache) (now : Int) : List Shard :=
  c.shards.mapIdx fun id s => if c.live.entries.any (·.2 = id) then s.flush now else s

theorem getElem?_flushedShards {host : String} {id : Nat} {s : Shard}
    (hid : c.live.get? host = some id) (hs : c.shards[id]? = some s) (now : Int) :
    (c.flushedShards now)[id]? = some (s.flush now) := by
  have hany : c.live.entries.any (·.2 = id) = true :=
    List.any_eq_true.mpr ⟨(host, id), Table.mem_entries.mpr hid, decide_eq_true rfl⟩
  rw [flushedShards, List.getElem?_mapIdx, hs]
  simp only [hany, Option.map_some, ↓reduceIte]

theorem live_afterFlush_of_none {host : String} (h : c.live.get? host = none) (now : Int) :
    (c.afterFlush now).live.get? host = none := by
  have hlive : (c.afterFlush now).live.get? host = (c.live.get? host).bind _ :=
    Table.get?_filterMap _ _ _
  rw [hlive, h, Option.bind_none]

theorem live_afterFlush {host : String} {id : Nat} {s : Shard}
    (hid : c.live.get? host = some id) (hs : c.shards[id]? = some s) (now : Int) :
    (c.afterFlush now).live.get? host = if (s.flush now).items.isEmpty then none else some id := by
  have hlive : (c.afterFlush now).live.get? host = (c.live.get? host).bind _ :=
    Table.get?_filterMap _ _ _
  have hflushed := getElem?_flushedShards hid hs now
  rw [flushedShards] at hflushed
  rw [hlive, hid, Option.bind_some, hflushed]

include hc in
/-- After a flush every host has its shard as the flush left it, unless that is empty. -/
theorem shard?_afterFlush (now : Int) (host : String) :
    (c.afterFlush now).shard? host = (c.shard? host).bind fun s =>
      if (s.flush now).items.isEmpty then none else some (s.flush now) := by
  cases hl : c.live.get? host with
  | none =>
    rw [(shard?_eq_none hc).mpr hl, Option.bind_none]
    simp [shard?, find?, live_afterFlush_of_none hl]
  | some id =>
    obtain ⟨s, hs, -⟩ := hc host id hl
    rw [shard?_eq_some.mpr ⟨id, hl, hs⟩, Option.bind_some]
    apply Option.ext
    intro t
    rw [shard?_eq_some, live_afterFlush hl hs]
    split
    case isTrue he => simp
    case isFalse he =>
      have hs' := getElem?_flushedShards hl hs now
      constructor
      · rintro ⟨id', hid', ht⟩
        cases hid'
        exact hs'.symm.trans ht
      · rintro ht
        exact ⟨id, rfl, hs'.trans ht⟩

include hc in
theorem WellFormed.afterFlush (now : Int) : (c.afterFlush now).WellFormed := by
  intro host id hid
  cases hl : c.live.get? host with
  | none =>
    rw [live_afterFlush_of_none hl] at hid
    cases hid
  | some id' =>
    obtain ⟨s, hs, hserves, -⟩ := hc host id' hl
    rw [live_afterFlush hl hs] at hid
    split at hid
    case isTrue he => cases hid
    case isFalse he =>
      cases hid
      have he' := Bool.eq_false_iff.mpr he
      exact ⟨s.flush now, getElem?_flushedShards hl hs now, hserves.flush he', he'⟩

include hc in
theorem timeToLive_insert (sample : Sample) (now : Int) :
    (c.insert sample now).timeToLive = c.timeToLive := by
  cases hf : c.find? sample.hostKey with
  | some p =>
    obtain ⟨id, s⟩ := p
    obtain ⟨hid, hs⟩ := find?_eq_some.mp hf
    obtain ⟨hserves, -⟩ := serves_of_shard? hc (shard?_eq_some.mpr ⟨id, hid, hs⟩)
    rw [insert_of_linked hf hserves.live]
  | none => rw [insert_of_absent hf]

include hc in
theorem item?_insert (sample : Sample) (now : Int) (host key : String) :
    (c.insert sample now).item? host key =
      if sample.hostKey = host ∧ sample.itemKey = key then some ⟨sample, true⟩
      else c.item? host key := by
  rw [item?, shard?_insert hc]
  by_cases hh : sample.hostKey = host
  · rw [if_pos hh, Option.bind_some, Shard.get?_merge]
    by_cases hk : sample.itemKey = key
    · rw [if_pos hk, if_pos ⟨hh, hk⟩]
    · rw [if_neg hk, if_neg fun h => hk h.2, item?]
      cases c.shard? host <;> rfl
  · rw [if_neg hh, if_neg fun h => hh h.1, item?]

include hc in
theorem item?_afterFlush (now : Int) (host key : String) :
    (c.afterFlush now).item? host key = (c.shard? host).bind fun s =>
      (s.items.get? key).bind (Shard.survivor? (s.expired now)) := by
  rw [item?, shard?_afterFlush hc]
  cases c.shard? host with
  | none => rfl
  | some s =>
    rw [Option.bind_some, Option.bind_some, ← Shard.get?_flush]
    split
    case isTrue he => rw [Option.bind_none, (Table.isEmpty_iff _).mp he key]
    case isFalse he => rw [Option.bind_some]

include hc in
theorem isSome_shard? {host : String} :
    (c.shard? host).isSome ↔ ∃ key, (c.item? host key).isSome := by
  unfold item?
  cases h : c.shard? host with
  | none => simp
  | some s =>
    have hne : ¬ ∀ key, s.items.get? key = none := by
      rw [← Table.isEmpty_iff, (serves_of_shard? hc h).2]
      exact Bool.false_ne_true
    simpa [Option.isSome_iff_ne_none] using hne

include hc in
theorem mem_liveShards {s : Shard} : s ∈ c.liveShards ↔ c.shard? s.host = some s := by
  unfold liveShards
  rw [List.mem_filterMap]
  constructor
  · rintro ⟨⟨host, id⟩, hm, hs⟩
    have hid := Table.mem_entries.mp hm
    have hshard := shard?_eq_some.mpr ⟨id, hid, hs⟩
    rw [(serves_of_shard? hc hshard).1.host_eq]
    exact hshard
  · intro h
    obtain ⟨id, hid, hs⟩ := shard?_eq_some.mp h
    exact ⟨(s.host, id), Table.mem_entries.mpr hid, hs⟩

include hc in
theorem hosts_liveShards : c.liveShards.map (·.host) = c.live.keys := by
  have hlinked : ∀ e ∈ c.live.entries, ∃ s, c.shards[e.2]? = some s ∧ s.host = e.1 := by
    rintro ⟨host, id⟩ hm
    obtain ⟨s, hs, hserves, -⟩ := hc host id (Table.mem_entries.mp hm)
    exact ⟨s, hs, hserves.host_eq⟩
  unfold liveShards Table.keys
  generalize c.live.entries = l at hlinked ⊢
  induction l with
  | nil => rfl
  | cons e l ih =>
    obtain ⟨s, hs, hhost⟩ := hlinked e (by simp)
    have hl := ih fun d hd => hlinked d (by simp [hd])
    simp [hs, hhost, hl]

include hc in
theorem nodup_hosts : (c.liveShards.map (·.host)).Nodup := by
  rw [hosts_liveShards hc]
  exact c.live.nodup_keys

include hc in
theorem size_eq : c.size = c.liveShards.length := by
  rw [← List.length_map (·.host), hosts_liveShards hc, Table.keys, List.length_map, size]

include hc in
theorem filter_liveShards (host : String) :
    c.liveShards.filter (·.host = host) = (c.shard? host).toList := by
  have hperm : (c.liveShards.filter (·.host = host)).Perm (c.shard? host).toList := by
    refine (List.perm_ext_iff_of_nodup ?_ ?_).mpr fun s => ?_
    · exact (List.Nodup.of_map _ (nodup_hosts hc)).filter _
    · cases c.shard? host <;> simp
    · rw [List.mem_filter, mem_liveShards hc, Option.mem_toList]
      constructor
      · rintro ⟨hs, hhost⟩
        rwa [of_decide_eq_true hhost] at hs
      · intro hs
        have hhost := (serves_of_shard? hc hs).1.host_eq
        exact ⟨hhost ▸ hs, decide_eq_true hhost⟩
  cases h : c.shard? host with
  | none => rw [h] at hperm; exact List.perm_nil.mp hperm
  | some s => rw [h] at hperm; exact List.perm_singleton.mp hperm

include hc in
theorem held_eq (host key : String) : c.held host key = (c.item? host key).toList := by
  rw [held, filter_liveShards hc, item?]
  cases c.shard? host with
  | none => rfl
  | some s =>
    rw [Option.toList_some, List.flatMap_singleton, Table.filter_entries, Option.bind_some]
    cases s.items.get? key <;> rfl

include hc in
theorem held_ne_nil {host key : String} :
    c.held host key ≠ [] ↔ ∃ e, c.item? host key = some e := by
  rw [held_eq hc]
  cases c.item? host key <;> simp

include hc in
theorem isSome_find? {host : String} :
    (c.find? host).isSome ↔ ∃ key, c.held host key ≠ [] := by
  have hshard : (c.find? host).isSome = (c.shard? host).isSome := by rw [shard?, Option.isSome_map]
  simp only [hshard, isSome_shard? hc, held_ne_nil hc, Option.isSome_iff_exists]

include hc in
theorem mem_hosts {host : String} :
    host ∈ c.liveShards.map (·.host) ↔ ∃ key, c.held host key ≠ [] := by
  simp only [held_ne_nil hc, ← Option.isSome_iff_exists, ← isSome_shard? hc]
  rw [List.mem_map, Option.isSome_iff_exists]
  constructor
  · rintro ⟨s, hs, rfl⟩
    exact ⟨s, (mem_liveShards hc).mp hs⟩
  · rintro ⟨s, hs⟩
    have hhost := (serves_of_shard? hc hs).1.host_eq
    exact ⟨s, (mem_liveShards hc).mpr (hhost ▸ hs), hhost⟩

end

end ScrapeBridge.Cache
