import ScrapeBridge.Proofs.Cache.Emission

namespace ScrapeBridge.Cache

def fill (host : String) (timeToLive now : Int) (shard : Option Shard) (samples : List Sample) :
    Option Shard :=
  samples.foldl (fun s sample => some ((s.getD (.create host timeToLive now)).merge sample now)) shard

def Alike (c d : Cache) : Prop := ∀ host, c.shard? host = d.shard? host

section

variable {c d : Cache} (hc : c.WellFormed)

include hc

theorem shard?_inserts (now : Int) (samples : List Sample) (host : String) :
    (c.run (inserts now samples)).shard? host =
        fill host c.timeToLive now (c.shard? host) (samples.filter (·.hostKey = host)) ∧
      (c.run (inserts now samples)).timeToLive = c.timeToLive := by
  induction samples using List.reverseRecOn with
  | nil => exact ⟨rfl, rfl⟩
  | append_singleton samples s ih =>
    obtain ⟨hshard, htimeToLive⟩ := ih
    have hwell := hc.run (inserts now samples)
    have hinserts : inserts now (samples ++ [s]) = inserts now samples ++ [.insert s now] :=
      List.map_append
    rw [hinserts, run_append, apply, timeToLive_insert hwell, shard?_insert hwell, hshard,
      htimeToLive, List.filter_append]
    refine ⟨?_, rfl⟩
    by_cases hhost : s.hostKey = host
    · rw [if_pos hhost, List.filter_singleton, decide_eq_true hhost, cond_true, fill, fill,
        List.foldl_concat]
    · rw [if_neg hhost, List.filter_singleton, decide_eq_false hhost, cond_false, List.append_nil]

/-- What hosts have sent at one instant may come in in any order that keeps each host's own. -/
theorem alike_inserts (now : Int) {samples samples' : List Sample}
    (h : ∀ host, samples.filter (·.hostKey = host) = samples'.filter (·.hostKey = host)) :
    (c.run (inserts now samples)).Alike (c.run (inserts now samples')) := by
  intro host
  rw [(shard?_inserts hc now samples host).1, (shard?_inserts hc now samples' host).1, h host]

theorem nodup_liveShards : c.liveShards.Nodup := List.Nodup.of_map _ (nodup_hosts hc)

variable (hd : d.WellFormed)

include hd

theorem Alike.perm_liveShards (h : c.Alike d) : c.liveShards.Perm d.liveShards := by
  refine (List.perm_ext_iff_of_nodup (nodup_liveShards hc) (nodup_liveShards hd)).mpr ?_
  intro s
  rw [mem_liveShards hc, mem_liveShards hd, h s.host]

theorem Alike.perm_emission (h : c.Alike d) (useTimestamp : Bool) :
    (c.emission useTimestamp).readings.Perm (d.emission useTimestamp).readings ∧
      (c.emission useTimestamp).hosts.Perm (d.emission useTimestamp).hosts :=
  ⟨(h.perm_liveShards hc hd).flatMap_right _, (h.perm_liveShards hc hd).map _⟩

end

end ScrapeBridge.Cache
