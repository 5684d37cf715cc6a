import Mathlib.Algebra.GroupWithZero.Nat
import Mathlib.Data.List.Nodup
import ScrapeBridge.Proofs.Cache.History
import ScrapeBridge.Time.Duration

namespace ScrapeBridge.Cache

def isOf (host key : String) (sample : Sample) : Bool :=
  sample.hostKey = host ∧ sample.itemKey = key

def lastOf? (host key : String) (samples : List Sample) : Option Sample :=
  samples.reverse.find? (isOf host key)

/-- The last sample of every item in a list. -/
def latest : List Sample → List Sample
  | [] => []
  | s :: rest => if rest.any (isOf s.hostKey s.itemKey) then latest rest else s :: latest rest

theorem lastOf?_concat (host key : String) (samples : List Sample) (s : Sample) :
    lastOf? host key (samples ++ [s]) =
      if s.hostKey = host ∧ s.itemKey = key then some s else lastOf? host key samples := by
  by_cases h : s.hostKey = host ∧ s.itemKey = key <;> simp [lastOf?, isOf, h]

theorem lastOf?_cons (host key : String) (s : Sample) (samples : List Sample) :
    lastOf? host key (s :: samples) =
      (lastOf? host key samples).or
        (if s.hostKey = host ∧ s.itemKey = key then some s else none) := by
  simp [lastOf?, isOf, List.find?_append]

theorem isSome_lastOf? (host key : String) (samples : List Sample) :
    (lastOf? host key samples).isSome = samples.any (isOf host key) := by
  rw [lastOf?, List.isSome_find?, List.any_reverse]

theorem mem_latest {samples : List Sample} {s : Sample} :
    s ∈ latest samples ↔ lastOf? s.hostKey s.itemKey samples = some s := by
  induction samples with
  | nil => simp [latest, lastOf?]
  | cons x rest ih =>
    have hx := isSome_lastOf? x.hostKey x.itemKey rest
    rw [latest, lastOf?_cons]
    split
    case isTrue h =>
      -- A later sample of the item of `x` hides `x`.
      rw [h] at hx
      rw [ih]
      by_cases hs : x.hostKey = s.hostKey ∧ x.itemKey = s.itemKey
      · rw [hs.1, hs.2] at hx
        obtain ⟨y, hy⟩ := Option.isSome_iff_exists.mp hx
        simp [hy]
      · simp [hs]
    case isFalse h =>
      rw [Bool.eq_false_iff.mpr h, Option.isSome_eq_false_iff, Option.isNone_iff_eq_none] at hx
      rw [List.mem_cons, ih, Option.or_eq_some_iff]
      constructor
      · rintro (rfl | hl)
        · exact .inr ⟨hx, if_pos ⟨rfl, rfl⟩⟩
        · exact .inl hl
      · rintro (hl | ⟨-, hl⟩)
        · exact .inr hl
        · split at hl <;> cases hl
          exact .inl rfl

theorem nodup_latest (samples : List Sample) : (latest samples).Nodup := by
  induction samples with
  | nil => exact .nil
  | cons x rest ih =>
    rw [latest]
    split
    case isTrue h => exact ih
    case isFalse h =>
      refine List.nodup_cons.mpr ⟨fun hx => h ?_, ih⟩
      rw [← isSome_lastOf?, mem_latest.mp hx, Option.isSome_some]

def newSamples (c : Cache) : List Sample := c.liveShards.flatMap (·.newSamples)

theorem readings_emission (c : Cache) (useTimestamp : Bool) :
    (c.emission useTimestamp).readings = c.newSamples.flatMap (·.readings useTimestamp) := by
  simp only [emission, newSamples, List.flatMap_assoc, Shard.newReadings_eq]

section

variable {c : Cache} (hc : c.WellFormed)

include hc in
theorem mem_newSamples {sample : Sample} : sample ∈ c.newSamples ↔
    c.item? sample.hostKey sample.itemKey = some ⟨sample, true⟩ := by
  unfold newSamples item?
  rw [List.mem_flatMap, Option.bind_eq_some_iff]
  constructor
  · rintro ⟨s, hs, hm⟩
    obtain ⟨key, hkey⟩ := Shard.mem_newSamples.mp hm
    have hshard := (mem_liveShards hc).mp hs
    obtain ⟨hhost, rfl⟩ := (serves_of_shard? hc hshard).1.filed key _ hkey
    exact ⟨s, hhost ▸ hshard, hkey⟩
  · rintro ⟨s, hs, hkey⟩
    have hhost := (serves_of_shard? hc hs).1.host_eq
    exact ⟨s, (mem_liveShards hc).mpr (hhost ▸ hs), Shard.mem_newSamples.mpr ⟨_, hkey⟩⟩

theorem Shard.Serves.itemKeys_newSamples {s : Shard} {timeToLive : Int} {host : String}
    (hs : s.Serves timeToLive host) :
    s.newSamples.map (·.itemKey) = (s.items.entries.filter (·.2.isNew)).map (·.1) := by
  have hfiled : ∀ e ∈ s.items.entries, e.2.sample.itemKey = e.1 :=
    fun e he => (hs.filed e.1 e.2 (Table.mem_entries.mp he)).2
  unfold newSamples
  generalize s.items.entries = l at hfiled ⊢
  induction l with
  | nil => rfl
  | cons e l ih =>
    have he := hfiled e (by simp)
    have hl := ih fun d hd => hfiled d (by simp [hd])
    by_cases hn : e.2.isNew <;> simp [hn, he, hl]

theorem Shard.Serves.nodup_newSamples {s : Shard} {timeToLive : Int} {host : String}
    (hs : s.Serves timeToLive host) : s.newSamples.Nodup := by
  apply List.Nodup.of_map (·.itemKey)
  rw [hs.itemKeys_newSamples]
  exact s.items.nodup_keys.sublist (List.filter_sublist.map _)

include hc in
theorem nodup_newSamples : c.newSamples.Nodup := by
  refine List.nodup_flatMap.mpr ⟨fun s hs => ?_, ?_⟩
  · exact (serves_of_shard? hc ((mem_liveShards hc).mp hs)).1.nodup_newSamples
  · have hhosts := nodup_hosts hc
    rw [List.nodup_iff_pairwise_ne, List.pairwise_map] at hhosts
    refine hhosts.imp_of_mem ?_
    intro s t hs ht hne sample hms hmt
    obtain ⟨key, hkey⟩ := Shard.mem_newSamples.mp hms
    obtain ⟨key', hkey'⟩ := Shard.mem_newSamples.mp hmt
    have hhs := ((serves_of_shard? hc ((mem_liveShards hc).mp hs)).1.filed key _ hkey).1
    have hht := ((serves_of_shard? hc ((mem_liveShards hc).mp ht)).1.filed key' _ hkey').1
    exact hne (hhs.symm.trans hht)

end

/-- The items that are new are those of which a sample came in since the last flush, and each holds
the last of these samples. -/
theorem item?_run_new (seconds : Nat) (events : List Event) (host key : String) (sample : Sample) :
    ((create seconds).run events).item? host key = some ⟨sample, true⟩ ↔
      lastOf? host key (pending events) = some sample := by
  have hc := wellFormed_create seconds
  induction events using List.reverseRecOn generalizing host key sample with
  | nil => simp [run, item?, shard?, find?, create, pending, lastOf?]
  | append_singleton events e ih =>
    rw [run_append]
    cases e with
    | insert s t =>
      rw [pending_insert, lastOf?_concat, apply, item?_insert (hc.run events)]
      split
      case isTrue h => simp
      case isFalse h => exact ih host key sample
    | flush t useTimestamp =>
      rw [pending_flush, apply, flush, item?_afterFlush (hc.run events)]
      simp only [lastOf?, List.reverse_nil, List.find?_nil, reduceCtorEq, iff_false,
        Option.bind_eq_some_iff, not_exists, not_and]
      intro s _ e _ he
      cases (Shard.sample_of_survivor? he).2

section

variable (seconds : Nat) (events : List Event)

theorem mem_newSamples_run {sample : Sample} :
    sample ∈ ((create seconds).run events).newSamples ↔ sample ∈ latest (pending events) := by
  rw [mem_newSamples ((wellFormed_create seconds).run events), item?_run_new, mem_latest]

theorem newSamples_run :
    ((create seconds).run events).newSamples.Perm (latest (pending events)) :=
  (List.perm_ext_iff_of_nodup (nodup_newSamples ((wellFormed_create seconds).run events))
    (nodup_latest _)).mpr fun _ => mem_newSamples_run seconds events

theorem newSamples_of_host {s : Shard} (hs : s ∈ ((create seconds).run events).liveShards) :
    ((latest (pending events)).filter (·.hostKey = s.host)).Perm s.newSamples := by
  have hc := (wellFormed_create seconds).run events
  have hshard := (mem_liveShards hc).mp hs
  have hserves := (serves_of_shard? hc hshard).1
  refine (List.perm_ext_iff_of_nodup ((nodup_latest _).filter _) hserves.nodup_newSamples).mpr ?_
  intro sample
  rw [List.mem_filter, ← mem_newSamples_run seconds, mem_newSamples hc, Shard.mem_newSamples]
  constructor
  · rintro ⟨he, hhost⟩
    rw [item?, of_decide_eq_true hhost, hshard] at he
    exact ⟨_, he⟩
  · rintro ⟨key, he⟩
    obtain ⟨hhost, rfl⟩ := hserves.filed key _ he
    rw [item?, hhost, hshard]
    exact ⟨he, decide_eq_true rfl⟩

end

/-- A flush emits the readings of the last sample of every item that came in since the flush before,
and nothing else; and it reports every host that the cache held something of, once, with the number
of readings that are the host's. -/
theorem flush_emits_latest (timeToLive : Duration) (events : List Event) (now : Int)
    (useTimestamp : Bool) :
    let c := (create timeToLive.seconds).run events
    let fresh := latest (pending events)
    let f := (c.flush now useTimestamp).2
    f.readings.Perm (fresh.flatMap (·.readings useTimestamp)) ∧
      (∃ hosts : List String, hosts.Nodup ∧
        (∀ host, host ∈ hosts ↔ ∃ key, c.held host key ≠ []) ∧
        f.hosts = hosts.map fun host =>
          ⟨host, ((fresh.filter (·.hostKey = host)).flatMap (·.readings useTimestamp)).length⟩) ∧
      (f.hosts.map (·.newValues)).sum = f.readings.length := by
  intro c fresh f
  have hc : c.WellFormed := (wellFormed_create _).run events
  refine ⟨?_, ⟨c.liveShards.map (·.host), nodup_hosts hc, fun host => mem_hosts hc, ?_⟩, ?_⟩
  · rw [show f.readings = _ from readings_emission c useTimestamp]
    exact (newSamples_run _ events).flatMap_right _
  · rw [List.map_map]
    apply List.map_congr_left
    intro s hs
    have hlength := ((newSamples_of_host _ events hs).flatMap_right
      (·.readings useTimestamp)).length_eq
    rw [← Shard.newReadings_eq] at hlength
    rw [← hlength]
    rfl
  · simp only [f, flush, emission, List.map_map, List.length_flatMap]
    rfl

end ScrapeBridge.Cache
