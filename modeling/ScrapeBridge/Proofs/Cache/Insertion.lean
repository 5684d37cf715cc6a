import ScrapeBridge.Proofs.Cache.Deeds
import ScrapeBridge.Proofs.Cache.Identity

namespace ScrapeBridge.Cache

/-- A sample is in its host's shard, which is open. -/
structure Stored (c : Cache) (sample : Sample) (now : Int) (id : Nat) (s : Shard) : Prop where
  found : c.find? sample.hostKey = some (id, s)
  live : s.retired = false
  lastAccess : s.lastAccess = now
  item : s.items.get? sample.itemKey = some ⟨sample, true⟩

/-- What others do during one attempt to merge a sample. -/
structure Meanwhile where
  afterLook : List Deed := []
  beforeLink : List Deed := []
  beforeMerge : List Deed := []

/-- Nobody flushes a shard between its being obtained and the merge. -/
def Meanwhile.Undisturbed (m : Meanwhile) : Prop := ∀ id t, .flush id t ∉ m.beforeMerge

/-- Obtains a host's shard while others are at work. The shard is used if it is not retired when
that is asked, after the look; otherwise links are looked at again, with nobody else changing
them. -/
def obtainAmid (c : Cache) (host : String) (now : Int) (m : Meanwhile) : Cache × Nat :=
  let again (c : Cache) :=
    let (c, id, _) := (c.actAll m.beforeLink).obtain host now
    (c, id)
  match c.find? host with
  | some (id, _) =>
    let c := c.actAll m.afterLook
    if c.shards[id]?.any (!·.retired) then (c, id) else again c
  | none => again c

/-- Merges a sample while others are at work, in one attempt for each entry of the list. -/
def insertAmid (c : Cache) (sample : Sample) (now : Int) : List Meanwhile → Option Cache
  | [] => none
  | m :: later =>
    let (c, id) := c.obtainAmid sample.hostKey now m
    let c := c.actAll m.beforeMerge
    match c.shards[id]?.bind (·.accept? sample now) with
    | some s => some { c with shards := c.shards.set id s }
    | none => c.insertAmid sample now later

section

variable {c : Cache} {sample : Sample} {now : Int}

theorem insertWithin_eq_insert (c : Cache) {attempts : Nat} (h : 0 < attempts) (sample : Sample)
    (now : Int) : c.insertWithin attempts sample now = some (c.insert sample now) := by
  obtain ⟨n, rfl⟩ := Nat.exists_eq_add_of_lt h
  rw [insert, insertWithin_succ, insertWithin_succ, Option.getD_some]

theorem stored_of_set {id : Nat} {s : Shard} (hid : c.live.get? sample.hostKey = some id)
    (hs : c.shards[id]? = some s) (hopen : s.retired = false) (now : Int) :
    Stored { c with shards := c.shards.set id (s.merge sample now) } sample now id
      (s.merge sample now) where
  found := by
    have hlt := (List.getElem?_eq_some_iff.mp hs).1
    exact find?_eq_some.mpr ⟨hid, List.getElem?_set_self hlt⟩
  live := hopen
  lastAccess := rfl
  item := by rw [Shard.get?_merge, if_pos rfl]

theorem insert_of_not_open
    (h : ∀ id s, c.find? sample.hostKey = some (id, s) → s.retired = true) (now : Int) :
    c.insert sample now =
      { c.link sample.hostKey now with
        shards := (c.link sample.hostKey now).shards.set c.shards.length
          ((Shard.create sample.hostKey c.timeToLive now).merge sample now) } := by
  obtain ⟨id, s, hf, hr, -⟩ | ⟨-, heq⟩ := obtain_cases c sample.hostKey now
  · rw [h id s hf] at hr
    cases hr
  · rw [insert, insertWithin_succ, heq, Option.getD_some]

/-- The sample is in the shard that its host had, or in a new one if that was retired. All other
shards stay as they are. -/
theorem exists_stored_insert (c : Cache) (sample : Sample) (now : Int) :
    ∃ id s, (c.insert sample now).Stored sample now id s ∧
      (∀ id₀ s₀, c.find? sample.hostKey = some (id₀, s₀) → s₀.retired = false →
        id = id₀ ∧ ∀ key, key ≠ sample.itemKey → s.items.get? key = s₀.items.get? key) ∧
      ((∀ id₀ s₀, c.find? sample.hostKey = some (id₀, s₀) → s₀.retired = true) →
        id = c.shards.length ∧ ∀ key, key ≠ sample.itemKey → s.items.get? key = none) ∧
      ∀ id', id' ≠ id → id' < c.shards.length →
        (c.insert sample now).shards[id']? = c.shards[id']? := by
  obtain ⟨id, s, hf, hr, -⟩ | ⟨hretired, heq⟩ := obtain_cases c sample.hostKey now
  · obtain ⟨hid, hs⟩ := find?_eq_some.mp hf
    rw [insert_of_linked hf hr]
    refine ⟨id, s.merge sample now, stored_of_set hid hs hr now, ?_, ?_, ?_⟩
    · intro id₀ s₀ h₀ _
      cases hf.symm.trans h₀
      exact ⟨rfl, fun key hkey => by rw [Shard.get?_merge, if_neg hkey.symm]⟩
    · intro hretired
      rw [hretired id s hf] at hr
      cases hr
    · intro id' hne _
      exact List.getElem?_set_ne hne.symm
  · have hlinked := linked_obtain c sample.hostKey now
    rw [heq] at hlinked
    obtain ⟨hid, hs, hopen⟩ := hlinked
    rw [insert_of_not_open hretired]
    refine ⟨c.shards.length, _, stored_of_set hid hs hopen now, ?_, ?_, ?_⟩
    · intro id₀ s₀ h₀ hr
      rw [hretired id₀ s₀ h₀] at hr
      cases hr
    · refine fun _ => ⟨rfl, fun key hkey => ?_⟩
      rw [Shard.get?_merge, if_neg hkey.symm]
      rfl
    · intro id' hne hlt
      exact (List.getElem?_set_ne hne.symm).trans (List.getElem?_append_left hlt)

theorem linked_insert (hc : c.Linked) (sample : Sample) (now : Int) :
    (c.insert sample now).Linked := by
  rw [insert_eq_actAll]
  exact hc.actAll _

theorem find?_insert_of_ne (hc : c.Linked) (now : Int) {host : String}
    (h : host ≠ sample.hostKey) : (c.insert sample now).find? host = c.find? host := by
  obtain ⟨id, s, hstored, hopen, hretired, hothers⟩ := exists_stored_insert c sample now
  have hlive : (c.insert sample now).live.get? host = c.live.get? host := by
    obtain ⟨id, s, hf, hr, -⟩ | ⟨hretired, -⟩ := obtain_cases c sample.hostKey now
    · rw [insert_of_linked hf hr]
    · rw [insert_of_not_open hretired]
      exact Table.get?_insert_of_ne _ _ h.symm
  have hid := (find?_eq_some.mp hstored.found).1
  apply Option.ext
  rintro ⟨id', s'⟩
  rw [find?_eq_some, find?_eq_some, hlive]
  refine and_congr_right fun hid' => ?_
  have hne : id' ≠ id := by
    rintro rfl
    exact h ((linked_insert hc sample now).host_unique _ _ _ (hlive.trans hid') hid)
  rw [hothers id' hne (hc.lt_length host id' hid')]

theorem obtainAmid_eq (c : Cache) (host : String) (now : Int) (m : Meanwhile) :
    ∃ deeds, c.obtainAmid host now m =
      (((c.actAll deeds).obtain host now).1, ((c.actAll deeds).obtain host now).2.1) := by
  unfold obtainAmid
  split
  case h_2 => exact ⟨m.beforeLink, rfl⟩
  case h_1 id s hf =>
    obtain ⟨hid, hs⟩ := find?_eq_some.mp hf
    dsimp only
    split
    case isFalse => exact ⟨m.afterLook ++ m.beforeLink, by rw [actAll_append]⟩
    case isTrue hopen =>
      rw [Option.any_eq_true] at hopen
      obtain ⟨s', hs', hopen⟩ := hopen
      rw [Bool.not_eq_true'] at hopen
      refine ⟨m.afterLook, ?_⟩
      -- A host stays linked to an open shard, so a second look would find the same.
      have hlt := (List.getElem?_eq_some_iff.mp hs).1
      have hf' := find?_eq_some.mpr ⟨(open_of_actAll host hlt hs' hopen).2 hid, hs'⟩
      simp only [obtain, hf', hopen, Bool.false_eq_true, if_false]

theorem linked_obtainAmid (c : Cache) (host : String) (now : Int) (m : Meanwhile) :
    let (c', id) := c.obtainAmid host now m
    c'.live.get? host = some id ∧ ∃ s, c'.shards[id]? = some s ∧ s.retired = false := by
  obtain ⟨deeds, heq⟩ := obtainAmid_eq c host now m
  have hlinked := linked_obtain (c.actAll deeds) host now
  rw [heq]
  exact ⟨hlinked.1, _, hlinked.2.1, hlinked.2.2⟩

theorem stored_of_insertAmid {plan : List Meanwhile} {c' : Cache}
    (h : c.insertAmid sample now plan = some c') : ∃ id s, c'.Stored sample now id s := by
  induction plan generalizing c with
  | nil => cases h
  | cons m later ih =>
    have hlinked := linked_obtainAmid c sample.hostKey now m
    rw [insertAmid] at h
    generalize c.obtainAmid sample.hostKey now m = p at h hlinked
    obtain ⟨c₁, id⟩ := p
    obtain ⟨hid, s, hs, -⟩ := hlinked
    dsimp only at h
    split at h
    case h_2 => exact ih h
    case h_1 s' hmerged =>
      obtain ⟨s₁, hs₁, haccept⟩ := Option.bind_eq_some_iff.mp hmerged
      cases hr : s₁.retired with
      | true =>
        rw [Shard.accept?_of_retired hr] at haccept
        cases haccept
      | false =>
        rw [Shard.accept?_of_live hr] at haccept
        cases haccept
        cases h
        have hlt := (List.getElem?_eq_some_iff.mp hs).1
        exact ⟨id, _, stored_of_set ((open_of_actAll _ hlt hs₁ hr).2 hid) hs₁ hr now⟩

/-- An attempt fails only if somebody flushes between the look and the merge. -/
theorem exists_insertAmid (c : Cache) (sample : Sample) (now : Int) {plan : List Meanwhile}
    (h : ∃ m ∈ plan, m.Undisturbed) : ∃ c', c.insertAmid sample now plan = some c' := by
  induction plan generalizing c with
  | nil => simp at h
  | cons m later ih =>
    have hlinked := linked_obtainAmid c sample.hostKey now m
    rw [insertAmid]
    generalize c.obtainAmid sample.hostKey now m = p at hlinked
    obtain ⟨c₁, id⟩ := p
    obtain ⟨-, s, hs, hopen⟩ := hlinked
    dsimp only
    split
    case h_1 => exact ⟨_, rfl⟩
    case h_2 hfailed =>
      rw [List.exists_mem_cons_iff] at h
      refine ih _ (h.resolve_left fun hm => ?_)
      obtain ⟨s', hs', hopen'⟩ := open_actAll hs hopen (hm id)
      rw [hs', Option.bind_some, Shard.accept?_of_live hopen'] at hfailed
      cases hfailed

theorem obtainAmid_quiet (c : Cache) (host : String) (now : Int) :
    c.obtainAmid host now {} = ((c.obtain host now).1, (c.obtain host now).2.1) := by
  unfold obtainAmid
  split
  case h_2 => rfl
  case h_1 id s hf =>
    have hs := (find?_eq_some.mp hf).2
    cases hopen : s.retired with
    | false => simp [hs, hopen, obtain, hf, actAll]
    | true => simp [hs, hopen, actAll]

theorem insertAmid_quiet (c : Cache) (sample : Sample) (now : Int) (attempts : Nat) :
    c.insertAmid sample now (List.replicate attempts {}) = c.insertWithin attempts sample now := by
  cases attempts with
  | zero => rfl
  | succ n =>
    have hlinked := linked_obtain c sample.hostKey now
    rw [insertWithin_succ, List.replicate_succ, insertAmid, obtainAmid_quiet]
    generalize c.obtain sample.hostKey now = p at hlinked
    obtain ⟨c', id, s⟩ := p
    obtain ⟨-, hs, hopen⟩ := hlinked
    simp only [actAll, List.foldl_nil, hs, Option.bind_some, Shard.accept?_of_live hopen]

/-- Merging a sample ends, with the first attempt unless others are at work, and then with the first
one between whose look and whose merge nobody flushes. The sample is then new in its host's shard,
which is open. That is the shard the host had, with all else as it was, or a new one with nothing
else if the host had none or only a retired one. Other shards are not touched, and other hosts are
linked as before. -/
theorem insert_ends_stored (hc : c.Linked) (sample : Sample) (now : Int) :
    (∀ attempts, 0 < attempts →
      c.insertWithin attempts sample now = some (c.insert sample now)) ∧
    (∃ id s, (c.insert sample now).Stored sample now id s ∧
      (∀ id₀ s₀, c.find? sample.hostKey = some (id₀, s₀) → s₀.retired = false →
        id = id₀ ∧ ∀ key, key ≠ sample.itemKey → s.items.get? key = s₀.items.get? key) ∧
      ((∀ id₀ s₀, c.find? sample.hostKey = some (id₀, s₀) → s₀.retired = true) →
        id = c.shards.length ∧ ∀ key, key ≠ sample.itemKey → s.items.get? key = none) ∧
      ∀ id', id' ≠ id → id' < c.shards.length →
        (c.insert sample now).shards[id']? = c.shards[id']?) ∧
    (∀ host, host ≠ sample.hostKey → (c.insert sample now).find? host = c.find? host) ∧
    (c.insert sample now).Linked ∧
    (∀ attempts,
      c.insertAmid sample now (List.replicate attempts {}) = c.insertWithin attempts sample now) ∧
    ∀ plan : List Meanwhile, (∃ m ∈ plan, m.Undisturbed) →
      ∃ c', c.insertAmid sample now plan = some c' ∧ ∃ id s, c'.Stored sample now id s := by
  refine ⟨fun _ hpos => insertWithin_eq_insert c hpos sample now, exists_stored_insert c sample now,
    fun _ => find?_insert_of_ne hc now, linked_insert hc sample now,
    insertAmid_quiet c sample now, fun plan hplan => ?_⟩
  obtain ⟨c', hc'⟩ := exists_insertAmid c sample now hplan
  exact ⟨c', hc', stored_of_insertAmid hc'⟩

/-- A shard has been flushed by itself until it was retired, and its host is linked to it still. -/
theorem insert_ends_of_retired :
    let sample : Sample := .collectd { host := "h1", plugin := "cpu", type := "cpu" }
    let c := (create 4).actAll [.obtain "h1" 100, .merge 0 sample 100, .flush 0 101, .flush 0 110]
    c.find? "h1" = some (0, ⟨"h1", 4, ∅, 100, true⟩) ∧
    (∃ s, (c.insert sample 111).Stored sample 111 1 s ∧
      ∀ key, key ≠ "cpu" → s.items.get? key = none) ∧
    (c.insert sample 111).shards[0]? = c.shards[0]? := by
  intro sample c
  have hf : c.find? "h1" = some (0, ⟨"h1", 4, ∅, 100, true⟩) := by rfl
  have hlength : c.shards.length = 1 := by rfl
  have hc : c.Linked := (Linked.of_create 4).actAll _
  obtain ⟨-, ⟨id, s, hstored, -, hretired, hothers⟩, -⟩ := insert_ends_stored hc sample 111
  obtain ⟨hid, honly⟩ := hretired fun id₀ s₀ h₀ => by cases hf.symm.trans h₀; rfl
  obtain rfl : id = 1 := hid.trans hlength
  have hkey : sample.itemKey = "cpu" := by decide
  rw [hkey] at honly
  exact ⟨hf, ⟨s, hstored, honly⟩, hothers 0 (by decide) (hlength ▸ Nat.zero_lt_one)⟩

end

end ScrapeBridge.Cache
