import Mathlib.Data.List.Nodup
import ScrapeBridge.Proofs.Cache.Contents

namespace ScrapeBridge.Cache

/-- Every link leads to a shard, and no two of them to the same. Shards may be empty, and also
retired: then a flush has not come to unlink them yet. -/
structure Linked (c : Cache) : Prop where
  lt_length : ∀ host id, c.live.get? host = some id → id < c.shards.length
  host_unique : ∀ host host' id, c.live.get? host = some id → c.live.get? host' = some id →
    host = host'

/-- What one user of a cache does while it has a lock. A sample may be merged into a shard that
somebody has had for a while, a shard may be flushed by itself, and a retired one be unlinked. -/
inductive Deed where
  | obtain (host : String) (now : Int)
  | merge (id : Nat) (sample : Sample) (now : Int)
  | flush (id : Nat) (now : Int)
  | unlink (id : Nat)

def link (c : Cache) (host : String) (now : Int) : Cache :=
  { c with
    shards := c.shards ++ [.create host c.timeToLive now]
    live := c.live.insert host c.shards.length }

def change (c : Cache) (id : Nat) (f : Shard → Shard) : Cache :=
  { c with shards := c.shards.modify id f }

def unlink (c : Cache) (id : Nat) : Cache :=
  { c with live := c.live.filterMap fun id' => if id' = id then none else some id' }

def act (c : Cache) : Deed → Cache
  | .obtain host now => (c.obtain host now).1
  | .merge id sample now => c.change id fun s => (s.accept? sample now).getD s
  | .flush id now => c.change id (·.flush now)
  | .unlink id => if c.shards[id]?.any (·.retired) then c.unlink id else c

def actAll (c : Cache) (deeds : List Deed) : Cache := deeds.foldl act c

theorem actAll_append (c : Cache) (deeds later : List Deed) :
    c.actAll (deeds ++ later) = (c.actAll deeds).actAll later := List.foldl_append

section

variable {c : Cache} {id : Nat} {s : Shard}

theorem obtain_cases (c : Cache) (host : String) (now : Int) :
    (∃ id s, c.find? host = some (id, s) ∧ s.retired = false ∧ c.obtain host now = (c, id, s)) ∨
    (∀ id s, c.find? host = some (id, s) → s.retired = true) ∧
      c.obtain host now = (c.link host now, c.shards.length, .create host c.timeToLive now) := by
  cases hf : c.find? host with
  | none =>
    refine .inr ⟨nofun, ?_⟩
    simp only [obtain, hf]
    rfl
  | some p =>
    obtain ⟨id, s⟩ := p
    cases hr : s.retired with
    | false => exact .inl ⟨id, s, rfl, hr, by simp [obtain, hf, hr]⟩
    | true =>
      refine .inr ⟨fun id' s' h => by cases h; exact hr, ?_⟩
      simp only [obtain, hf, hr, if_true]
      rfl

theorem getElem?_change (c : Cache) (id id' : Nat) (f : Shard → Shard) :
    (c.change id f).shards[id']? = c.shards[id']?.map fun s => if id = id' then f s else s :=
  List.getElem?_modify ..

theorem live_unlink (c : Cache) (id : Nat) (host : String) :
    (c.unlink id).live.get? host =
      (c.live.get? host).bind fun id' => if id' = id then none else some id' :=
  Table.get?_filterMap _ _ _

theorem linked_obtain (c : Cache) (host : String) (now : Int) :
    let (c', id, s) := c.obtain host now
    c'.live.get? host = some id ∧ c'.shards[id]? = some s ∧ s.retired = false := by
  obtain ⟨id, s, hf, hr, heq⟩ | ⟨-, heq⟩ := obtain_cases c host now
  · rw [heq]
    obtain ⟨hid, hs⟩ := find?_eq_some.mp hf
    exact ⟨hid, hs, hr⟩
  · rw [heq]
    exact ⟨Table.get?_insert_self _ _ _, by simp [link], rfl⟩

theorem insertWithin_succ (c : Cache) (attempts : Nat) (sample : Sample) (now : Int) :
    c.insertWithin (attempts + 1) sample now =
      let (c', id, s) := c.obtain sample.hostKey now
      some { c' with shards := c'.shards.set id (s.merge sample now) } := by
  have hobtain := linked_obtain c sample.hostKey now
  rw [insertWithin]
  generalize c.obtain sample.hostKey now = p at hobtain
  obtain ⟨c', id, s⟩ := p
  simp only [Shard.accept?_of_live hobtain.2.2]

theorem length_act (c : Cache) (d : Deed) : c.shards.length ≤ (c.act d).shards.length := by
  cases d with
  | obtain host now =>
    obtain ⟨id, s, -, -, heq⟩ | ⟨-, heq⟩ := obtain_cases c host now <;> simp [act, heq, link]
  | merge id sample now => simp [act, change]
  | flush id now => simp [act, change]
  | unlink id => rw [act]; split <;> exact Nat.le_refl _

theorem Shard.retired_accept? (s : Shard) (sample : Sample) (now : Int) :
    ((s.accept? sample now).getD s).retired = s.retired := by
  unfold accept?
  split <;> rfl

theorem Shard.retired_of_flush {now : Int} (h : (s.flush now).retired = false) :
    s.retired = false := by
  rw [retired_flush, Bool.or_eq_false_iff] at h
  exact h.1

theorem open_of_change {id' : Nat} {f : Shard → Shard}
    (hf : ∀ s, (f s).retired = false → s.retired = false)
    (hs : (c.change id' f).shards[id]? = some s) (hopen : s.retired = false) :
    ∃ s₀, c.shards[id]? = some s₀ ∧ s₀.retired = false := by
  rw [getElem?_change, Option.map_eq_some_iff] at hs
  obtain ⟨s₀, hs₀, rfl⟩ := hs
  refine ⟨s₀, hs₀, ?_⟩
  split at hopen
  · exact hf s₀ hopen
  · exact hopen

theorem open_of_act (host : String) {d : Deed} (hlt : id < c.shards.length)
    (hs : (c.act d).shards[id]? = some s) (hopen : s.retired = false) :
    (∃ s₀, c.shards[id]? = some s₀ ∧ s₀.retired = false) ∧
      (c.live.get? host = some id → (c.act d).live.get? host = some id) := by
  cases d with
  | obtain host' now =>
    obtain ⟨id', s', -, -, heq⟩ | ⟨hretired, heq⟩ := obtain_cases c host' now
    · simp only [act, heq] at hs ⊢
      exact ⟨⟨s, hs, hopen⟩, fun h => h⟩
    · simp only [act, heq, link] at hs ⊢
      rw [List.getElem?_append_left hlt] at hs
      refine ⟨⟨s, hs, hopen⟩, fun h => ?_⟩
      -- Only a host whose shard is retired is linked anew, and this one's is open.
      have hne : host' ≠ host := by
        rintro rfl
        rw [hretired id s (find?_eq_some.mpr ⟨h, hs⟩)] at hopen
        cases hopen
      rw [Table.get?_insert_of_ne _ _ hne, h]
  | merge id' sample now =>
    refine ⟨open_of_change (fun s h => ?_) hs hopen, fun h => h⟩
    rwa [Shard.retired_accept?] at h
  | flush id' now =>
    exact ⟨open_of_change (fun _ h => Shard.retired_of_flush h) hs hopen, fun h => h⟩
  | unlink id' =>
    rw [act] at hs ⊢
    split at hs
    case isFalse hr => exact ⟨⟨s, hs, hopen⟩, fun h => by rwa [if_neg hr]⟩
    case isTrue hr =>
      have hs₀ : c.shards[id]? = some s := hs
      have hne : id ≠ id' := by
        rintro rfl
        rw [hs₀, Option.any_some, hopen] at hr
        cases hr
      exact ⟨⟨s, hs₀, hopen⟩, fun h => by
        rw [if_pos hr, live_unlink, h, Option.bind_some, if_neg hne]⟩

/-- Whatever others have done, a host is linked to the shard it was linked to if that is open. -/
theorem open_of_actAll (host : String) {deeds : List Deed} (hlt : id < c.shards.length)
    (hs : (c.actAll deeds).shards[id]? = some s) (hopen : s.retired = false) :
    (∃ s₀, c.shards[id]? = some s₀ ∧ s₀.retired = false) ∧
      (c.live.get? host = some id → (c.actAll deeds).live.get? host = some id) := by
  induction deeds generalizing c with
  | nil => exact ⟨⟨s, hs, hopen⟩, fun h => h⟩
  | cons d deeds ih =>
    obtain ⟨⟨s₁, hs₁, hopen₁⟩, hlive⟩ := ih (Nat.lt_of_lt_of_le hlt (length_act c d)) hs
    obtain ⟨hopen₀, hlive₀⟩ := open_of_act host hlt hs₁ hopen₁
    exact ⟨hopen₀, fun h => hlive (hlive₀ h)⟩

theorem open_act {d : Deed} (hs : c.shards[id]? = some s) (hopen : s.retired = false)
    (hd : ∀ t, d ≠ .flush id t) : ∃ s', (c.act d).shards[id]? = some s' ∧ s'.retired = false := by
  cases d with
  | obtain host' now =>
    obtain ⟨id', s', -, -, heq⟩ | ⟨-, heq⟩ := obtain_cases c host' now
    · exact ⟨s, by simp only [act, heq, hs], hopen⟩
    · have hlt := (List.getElem?_eq_some_iff.mp hs).1
      exact ⟨s, by simp only [act, heq, link, List.getElem?_append_left hlt, hs], hopen⟩
  | merge id' sample now =>
    refine ⟨_, by rw [act, getElem?_change, hs, Option.map_some], ?_⟩
    split
    · rw [Shard.retired_accept?, hopen]
    · exact hopen
  | flush id' now =>
    have hne : id' ≠ id := fun h => hd now (h ▸ rfl)
    exact ⟨s, by rw [act, getElem?_change, hs, Option.map_some, if_neg hne], hopen⟩
  | unlink id' =>
    refine ⟨s, ?_, hopen⟩
    rw [act]
    split <;> exact hs

theorem open_actAll {deeds : List Deed} (hs : c.shards[id]? = some s) (hopen : s.retired = false)
    (hdeeds : ∀ t, .flush id t ∉ deeds) :
    ∃ s', (c.actAll deeds).shards[id]? = some s' ∧ s'.retired = false := by
  induction deeds generalizing c s with
  | nil => exact ⟨s, hs, hopen⟩
  | cons d deeds ih =>
    have hd : ∀ t, d ≠ .flush id t := fun t h => hdeeds t (h ▸ List.mem_cons_self)
    obtain ⟨s', hs', hopen'⟩ := open_act hs hopen hd
    exact ih hs' hopen' fun t ht => hdeeds t (List.mem_cons_of_mem _ ht)

end

namespace Linked

variable {c c' : Cache}

theorem exists_shard (hc : c.Linked) {host : String} {id : Nat}
    (h : c.live.get? host = some id) : ∃ s, c.shards[id]? = some s :=
  ⟨_, List.getElem?_eq_getElem (hc.lt_length host id h)⟩

theorem of_create (seconds : Nat) : (create seconds).Linked where
  lt_length := by intro host id h; cases h
  host_unique := by intro host host' id h; cases h

theorem mono (hc : c.Linked)
    (hlive : ∀ host id, c'.live.get? host = some id → c.live.get? host = some id)
    (hlength : c.shards.length ≤ c'.shards.length) : c'.Linked where
  lt_length host id h := Nat.lt_of_lt_of_le (hc.lt_length host id (hlive host id h)) hlength
  host_unique host host' id h h' := hc.host_unique host host' id (hlive _ _ h) (hlive _ _ h')

theorem link (hc : c.Linked) (host : String) (now : Int) : (c.link host now).Linked := by
  have hlt : ∀ host' id, (c.link host now).live.get? host' = some id →
      host = host' ∧ id = c.shards.length ∨ host ≠ host' ∧ c.live.get? host' = some id := by
    intro host' id h
    have hget : (if host = host' then some c.shards.length else c.live.get? host') = some id :=
      (Table.get?_insert _ _ _ _).symm.trans h
    split at hget
    case isTrue hh => cases hget; exact .inl ⟨hh, rfl⟩
    case isFalse hh => exact .inr ⟨hh, hget⟩
  constructor
  · intro host' id h
    have hlength : (c.link host now).shards.length = c.shards.length + 1 := by simp [Cache.link]
    rcases hlt host' id h with ⟨-, rfl⟩ | ⟨-, h⟩
    · omega
    · have := hc.lt_length host' id h
      omega
  · intro host₁ host₂ id h₁ h₂
    rcases hlt host₁ id h₁ with ⟨rfl, rfl⟩ | ⟨-, h₁⟩
    · rcases hlt host₂ _ h₂ with ⟨rfl, -⟩ | ⟨-, h₂⟩
      · rfl
      · exact absurd (hc.lt_length host₂ _ h₂) (Nat.lt_irrefl _)
    · rcases hlt host₂ id h₂ with ⟨-, rfl⟩ | ⟨-, h₂⟩
      · exact absurd (hc.lt_length host₁ _ h₁) (Nat.lt_irrefl _)
      · exact hc.host_unique host₁ host₂ id h₁ h₂

theorem unlink (hc : c.Linked) (id : Nat) : (c.unlink id).Linked := by
  refine hc.mono (fun host id' h => ?_) (Nat.le_refl _)
  rw [live_unlink, Option.bind_eq_some_iff] at h
  obtain ⟨id'', hid'', h⟩ := h
  split at h <;> cases h
  exact hid''

theorem act (hc : c.Linked) (d : Deed) : (c.act d).Linked := by
  cases d with
  | obtain host now =>
    obtain ⟨id, s, -, -, heq⟩ | ⟨-, heq⟩ := obtain_cases c host now
    · rwa [Cache.act, heq]
    · rw [Cache.act, heq]
      exact hc.link host now
  | merge id sample now => exact hc.mono (fun _ _ h => h) (length_act c _)
  | flush id now => exact hc.mono (fun _ _ h => h) (length_act c _)
  | unlink id =>
    rw [Cache.act]
    split
    · exact hc.unlink id
    · exact hc

theorem actAll (hc : c.Linked) (deeds : List Deed) : (c.actAll deeds).Linked := by
  induction deeds generalizing c with
  | nil => exact hc
  | cons d deeds ih => exact ih (hc.act d)

end Linked

section

variable {c : Cache}

theorem insert_eq_actAll (c : Cache) (sample : Sample) (now : Int) :
    c.insert sample now = c.actAll [.obtain sample.hostKey now,
      .merge (c.obtain sample.hostKey now).2.1 sample now] := by
  have hobtain := linked_obtain c sample.hostKey now
  change (c.insertWithin 1 sample now).getD c =
    (c.obtain sample.hostKey now).1.act (.merge (c.obtain sample.hostKey now).2.1 sample now)
  rw [insertWithin_succ]
  generalize c.obtain sample.hostKey now = p at hobtain
  obtain ⟨c', id, s⟩ := p
  obtain ⟨-, hs, hopen⟩ := hobtain
  have hmerge : (s.accept? sample now).getD s = s.merge sample now := by
    rw [Shard.accept?_of_live hopen, Option.getD_some]
  simp only [Option.getD_some, act, change, List.modify_eq_set_getElem?, hs, Option.map_eq_map,
    Option.map_some, hmerge]

theorem actAll_flush {ids : List Nat} (hids : ids.Nodup) (c : Cache) (now : Int) :
    c.actAll (ids.map (.flush · now)) =
      { c with shards := c.shards.mapIdx fun id s => if id ∈ ids then s.flush now else s } := by
  induction ids generalizing c with
  | nil =>
    have hshards : c.shards.mapIdx (fun id s => if id ∈ [] then s.flush now else s) = c.shards := by
      apply List.ext_getElem?
      simp
    rw [hshards]
    rfl
  | cons id ids ih =>
    rw [List.nodup_cons] at hids
    change (c.act (.flush id now)).actAll _ = _
    rw [ih hids.2]
    have hshards : (c.shards.modify id (·.flush now)).mapIdx
        (fun id' s => if id' ∈ ids then s.flush now else s) =
        c.shards.mapIdx fun id' s => if id' ∈ id :: ids then s.flush now else s := by
      apply List.ext_getElem?
      intro id'
      rw [List.getElem?_mapIdx, List.getElem?_mapIdx, List.getElem?_modify, Option.map_eq_map,
        Option.map_map]
      congr 1
      funext s
      by_cases hid : id = id'
      · subst hid
        simp [hids.1]
      · simp [hid, Ne.symm hid]
    simp only [act, change, hshards]

theorem actAll_unlink {ids : List Nat} (c : Cache)
    (hretired : ∀ id ∈ ids, c.shards[id]?.any (·.retired) = true) :
    c.actAll (ids.map .unlink) =
      { c with live := c.live.filterMap fun id => if id ∈ ids then none else some id } := by
  induction ids generalizing c with
  | nil =>
    have hlive : (c.live.filterMap fun id => if id ∈ [] then none else some id) = c.live := by
      apply Table.ext_get?
      intro host
      rw [Table.get?_filterMap]
      cases c.live.get? host <;> simp
    rw [hlive]
    rfl
  | cons id ids ih =>
    have hact : c.act (.unlink id) = c.unlink id := if_pos (hretired id List.mem_cons_self)
    change (c.act (.unlink id)).actAll _ = _
    rw [hact, ih (c.unlink id) fun id' hid' => hretired id' (List.mem_cons_of_mem _ hid')]
    have hlive : ((c.unlink id).live.filterMap fun id' => if id' ∈ ids then none else some id') =
        c.live.filterMap fun id' => if id' ∈ id :: ids then none else some id' := by
      apply Table.ext_get?
      intro host
      rw [Table.get?_filterMap, live_unlink, Table.get?_filterMap]
      cases c.live.get? host with
      | none => rfl
      | some id' => by_cases hid : id' = id <;> simp [hid]
    rw [hlive]
    rfl

def ids (c : Cache) : List Nat := c.live.entries.map (·.2)

theorem mem_ids {id : Nat} : id ∈ c.ids ↔ ∃ host, c.live.get? host = some id := by
  rw [ids, List.mem_map]
  constructor
  · rintro ⟨⟨host, id⟩, he, rfl⟩
    exact ⟨host, Table.mem_entries.mp he⟩
  · rintro ⟨host, h⟩
    exact ⟨(host, id), Table.mem_entries.mpr h, rfl⟩

theorem nodup_ids (hc : c.Linked) : c.ids.Nodup := by
  refine List.Nodup.map_on ?_ (List.Nodup.of_map _ c.live.nodup_keys)
  rintro ⟨host, id⟩ he ⟨host', id'⟩ he' hid
  obtain rfl : id = id' := hid
  rw [hc.host_unique host host' id (Table.mem_entries.mp he) (Table.mem_entries.mp he')]

theorem flushedShards_eq (c : Cache) (now : Int) : c.flushedShards now =
    c.shards.mapIdx fun id s => if id ∈ c.ids then s.flush now else s := by
  have hany : ∀ id, c.live.entries.any (·.2 = id) = true ↔ id ∈ c.ids := by
    simp [ids, List.any_eq_true]
  simp only [flushedShards, hany]

theorem afterFlush_eq_actAll (hc : c.Linked) (now : Int) :
    c.afterFlush now = c.actAll (c.ids.map (.flush · now) ++
      (c.ids.filter fun id => (c.flushedShards now)[id]?.any (·.items.isEmpty)).map .unlink) := by
  rw [actAll_append, actAll_flush (nodup_ids hc), ← flushedShards_eq, actAll_unlink]
  · have hlive : (c.afterFlush now).live = c.live.filterMap fun id =>
        if id ∈ c.ids.filter fun id => (c.flushedShards now)[id]?.any (·.items.isEmpty) then none
        else some id := by
      apply Table.ext_get?
      intro host
      rw [Table.get?_filterMap]
      cases hid : c.live.get? host with
      | none => rw [live_afterFlush_of_none hid, Option.bind_none]
      | some id =>
        obtain ⟨s, hs⟩ := hc.exists_shard hid
        have hmem : id ∈ c.ids := mem_ids.mpr ⟨host, hid⟩
        rw [live_afterFlush hid hs, Option.bind_some]
        simp only [List.mem_filter, hmem, true_and, getElem?_flushedShards hid hs,
          Option.any_some]
    rw [← hlive]
    rfl
  · intro id hid
    rw [List.mem_filter] at hid
    obtain ⟨hmem, hempty⟩ := hid
    obtain ⟨host, hlive⟩ := mem_ids.mp hmem
    obtain ⟨s, hs⟩ := hc.exists_shard hlive
    have hflushed := getElem?_flushedShards hlive hs now
    simp only [hflushed, Option.any_some] at hempty ⊢
    rw [Shard.retired_flush, hempty, Bool.or_true]

theorem exists_actAll_apply (hc : c.Linked) (e : Event) : ∃ deeds, c.apply e = c.actAll deeds := by
  cases e with
  | insert sample now => exact ⟨_, insert_eq_actAll c sample now⟩
  | flush now useTimestamp => exact ⟨_, afterFlush_eq_actAll hc now⟩

/-- Whatever is done to a cache, it is deeds that are done. -/
theorem exists_actAll_run (hc : c.Linked) (events : List Event) :
    ∃ deeds, c.run events = c.actAll deeds := by
  induction events generalizing c with
  | nil => exact ⟨[], rfl⟩
  | cons e events ih =>
    obtain ⟨deeds, hdeeds⟩ := exists_actAll_apply hc e
    obtain ⟨later, hlater⟩ := ih (hdeeds ▸ hc.actAll deeds)
    refine ⟨deeds ++ later, ?_⟩
    rw [actAll_append, ← hdeeds, ← hlater]
    rfl

end

end ScrapeBridge.Cache
