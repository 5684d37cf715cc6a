import ScrapeBridge.Proofs.Cache.History
import ScrapeBridge.Time.Duration

namespace ScrapeBridge.Cache

/-- The first flush after the last sample of an item only demotes the item; some later one found its
host silent for longer than the time to live. -/
def Expelled (timeToLive : Int) (host key : String) (events : List Event) : Prop :=
  ∃ before now useTimestamp after t,
    events = before ++ .flush now useTimestamp :: after ∧
      (∀ e ∈ after, ¬ e.feeds host key) ∧ flushedSince host key before ∧
      lastContact? host before = some t ∧ timeToLive < now - t

theorem expelled_concat {timeToLive : Int} {host key : String} {events : List Event} {e : Event} :
    Expelled timeToLive host key (events ++ [e]) ↔
      ¬ e.feeds host key ∧ Expelled timeToLive host key events ∨
        ∃ now useTimestamp t, e = .flush now useTimestamp ∧ flushedSince host key events ∧
          lastContact? host events = some t ∧ timeToLive < now - t := by
  constructor
  · rintro ⟨before, now, useTimestamp, after, t, hsplit, hafter, h⟩
    rcases List.eq_nil_or_concat after with rfl | ⟨after, d, rfl⟩
    · obtain ⟨rfl, he⟩ := List.append_inj' hsplit rfl
      cases he
      exact .inr ⟨now, useTimestamp, t, rfl, h⟩
    · rw [List.concat_eq_append, ← List.cons_append, ← List.append_assoc] at hsplit
      obtain ⟨rfl, he⟩ := List.append_inj' hsplit rfl
      cases he
      refine .inl ⟨hafter e (by simp), before, now, useTimestamp, after, t, rfl, ?_, h⟩
      exact fun d hd => hafter d (by simp [hd])
  · rintro (⟨he, before, now, useTimestamp, after, t, rfl, hafter, h⟩ |
      ⟨now, useTimestamp, t, rfl, h⟩)
    · refine ⟨before, now, useTimestamp, after ++ [e], t, by simp, ?_, h⟩
      intro d hd
      rcases List.mem_append.mp hd with hd | hd
      · exact hafter d hd
      · rwa [List.mem_singleton.mp hd]
    · exact ⟨events, now, useTimestamp, [], t, rfl, by simp, h⟩

section

variable (timeToLive : Int) (host key : String) (events : List Event)

theorem expelled_insert (sample : Sample) (t : Int) :
    Expelled timeToLive host key (events ++ [.insert sample t]) ↔
      ¬ (sample.hostKey = host ∧ sample.itemKey = key) ∧
        Expelled timeToLive host key events := by
  rw [expelled_concat]
  simp

theorem expelled_flush (t : Int) (useTimestamp : Bool) :
    Expelled timeToLive host key (events ++ [.flush t useTimestamp]) ↔
      Expelled timeToLive host key events ∨
        flushedSince host key events ∧
          ∃ a, lastContact? host events = some a ∧ timeToLive < t - a := by
  rw [expelled_concat]
  simp

end

/-- A cache holds what its history says, and knows when it last heard of the hosts that it holds. -/
structure Remembers (c : Cache) (timeToLive : Int) (events : List Event) : Prop where
  wellFormed : c.WellFormed
  timeToLive_eq : c.timeToLive = timeToLive
  entry : ∀ host key e, c.item? host key = some e ↔
    lastSample? host key events = some e.sample ∧ e.isNew = !flushedSince host key events ∧
      ¬ Expelled timeToLive host key events
  contact : ∀ host s, c.shard? host = some s → lastContact? host events = some s.lastAccess

theorem remembers_create (seconds : Nat) :
    (create seconds).Remembers (create seconds).timeToLive [] where
  wellFormed := wellFormed_create seconds
  timeToLive_eq := rfl
  entry := by
    intro host key e
    simp [item?, shard?, find?, create, lastSample?]
  contact := by
    intro host s h
    simp [shard?, find?, create] at h

section

variable {c : Cache} {timeToLive : Int} {events : List Event}

theorem Remembers.insert (h : c.Remembers timeToLive events) (sample : Sample) (t : Int) :
    (c.insert sample t).Remembers timeToLive (events ++ [.insert sample t]) where
  wellFormed := h.wellFormed.insert sample t
  timeToLive_eq := (timeToLive_insert h.wellFormed sample t).trans h.timeToLive_eq
  entry := by
    intro host key e
    rw [item?_insert h.wellFormed, lastSample?_insert, flushedSince_insert, expelled_insert]
    by_cases hi : sample.hostKey = host ∧ sample.itemKey = key
    · obtain ⟨s, isNew⟩ := e
      rw [if_pos hi, if_pos hi, if_pos hi]
      simp [hi, eq_comm]
    · rw [if_neg hi, if_neg hi, if_neg hi, h.entry]
      simp only [hi, not_false_eq_true, true_and]
  contact := InContact.insert h.wellFormed h.contact sample t

theorem Remembers.lastAccess_isTime (h : c.Remembers timeToLive events)
    (htimes : ∀ e ∈ events, IsTime e.now) {host : String} {s : Shard}
    (hs : c.shard? host = some s) : IsTime s.lastAccess := by
  obtain ⟨e, he, ht⟩ := mem_of_lastContact? (h.contact host s hs)
  exact ht ▸ htimes e he

theorem survivor?_eq_some {expired : Bool} {d e : Entry} :
    Shard.survivor? expired d = some e ↔
      e = ⟨d.sample, false⟩ ∧ ¬ (d.isNew = false ∧ expired = true) := by
  obtain ⟨sample, isNew⟩ := d
  cases isNew <;> cases expired <;> simp [Shard.survivor?, eq_comm]

theorem Remembers.flush (h : c.Remembers timeToLive events) (htimes : ∀ e ∈ events, IsTime e.now)
    {t : Int} (ht : IsTime t) (useTimestamp : Bool) :
    (c.afterFlush t).Remembers timeToLive (events ++ [.flush t useTimestamp]) where
  wellFormed := h.wellFormed.afterFlush t
  timeToLive_eq := h.timeToLive_eq
  entry := by
    intro host key e
    rw [lastSample?_flush, flushedSince_flush, expelled_flush, not_or, Bool.not_true]
    cases hd : c.item? host key with
    | none =>
      have hnone : (c.afterFlush t).item? host key = none := by
        rw [item?_afterFlush h.wellFormed]
        cases hs : c.shard? host with
        | none => rfl
        | some s =>
          rw [item?, hs] at hd
          rw [Option.bind_some, show s.items.get? key = none from hd, Option.bind_none]
      rw [hnone]
      constructor
      · intro he
        cases he
      -- An item that is kept over the flush would have been held before it.
      rintro ⟨hlast, -, hkept, -⟩
      have hheld := (h.entry host key ⟨e.sample, !flushedSince host key events⟩).mpr
        ⟨hlast, rfl, hkept⟩
      rw [hd] at hheld
      cases hheld
    | some d =>
      obtain ⟨hlast, hnew, hkept⟩ := (h.entry host key d).mp hd
      obtain ⟨s, hs, hget⟩ := Option.bind_eq_some_iff.mp hd
      have hage : s.expired t = decide (timeToLive < t - s.lastAccess) := by
        rw [Shard.expired, Shard.age_eq_sub (h.lastAccess_isTime htimes hs) ht,
          (serves_of_shard? h.wellFormed hs).1.timeToLive_eq, h.timeToLive_eq]
      rw [item?_afterFlush h.wellFormed, hs, Option.bind_some, hget, Option.bind_some,
        survivor?_eq_some, hage, h.contact host s hs, hlast, hnew]
      obtain ⟨sample, isNew⟩ := e
      rw [Entry.mk.injEq, Option.some.injEq, and_assoc, eq_comm (a := sample)]
      simp [hkept]
  contact := InContact.flush h.wellFormed h.contact t useTimestamp

end

theorem remembers_run (seconds : Nat) {events : List Event} (htimes : ∀ e ∈ events, IsTime e.now) :
    ((create seconds).run events).Remembers (create seconds).timeToLive events := by
  induction events using List.reverseRecOn with
  | nil => exact remembers_create seconds
  | append_singleton events e ih =>
    have hpast : ∀ d ∈ events, IsTime d.now := fun d hd => htimes d (List.mem_append_left _ hd)
    have hnow : IsTime e.now := htimes e (by simp)
    rw [run_append]
    cases e with
    | insert sample t => exact (ih hpast).insert sample t
    | flush t useTimestamp => exact (ih hpast).flush hpast hnow useTimestamp

section

variable {c : Cache} {timeToLive : Int} {events : List Event}

theorem Remembers.held_ne_nil_iff (h : c.Remembers timeToLive events) (host key : String) :
    c.held host key ≠ [] ↔
      (∃ e ∈ events, e.feeds host key) ∧ ¬ Expelled timeToLive host key events := by
  rw [held_ne_nil h.wellFormed, ← isSome_lastSample?]
  constructor
  · rintro ⟨e, he⟩
    obtain ⟨hlast, -, hkept⟩ := (h.entry host key e).mp he
    exact ⟨by rw [hlast]; rfl, hkept⟩
  · rintro ⟨hcame, hkept⟩
    obtain ⟨sample, hlast⟩ := Option.isSome_iff_exists.mp hcame
    exact ⟨⟨sample, !flushedSince host key events⟩, (h.entry host key _).mpr ⟨hlast, rfl, hkept⟩⟩

theorem Remembers.held_eq_last (h : c.Remembers timeToLive events) {host key : String}
    (hheld : c.held host key ≠ []) :
    ∃ sample, lastSample? host key events = some sample ∧
      c.held host key = [⟨sample, !flushedSince host key events⟩] := by
  obtain ⟨⟨sample, isNew⟩, he⟩ := (held_ne_nil h.wellFormed).mp hheld
  obtain ⟨hlast, rfl, -⟩ := (h.entry host key _).mp he
  exact ⟨sample, hlast, by rw [held_eq h.wellFormed, he]; rfl⟩

theorem Remembers.age_eq (h : c.Remembers timeToLive events) (htimes : ∀ e ∈ events, IsTime e.now)
    {s : Shard} (hs : s ∈ c.liveShards) {now : Int} (hnow : IsTime now) :
    s.age now = now - s.lastAccess ∧ -maxTime ≤ s.age now ∧ s.age now ≤ maxTime := by
  have hlast := h.lastAccess_isTime htimes ((mem_liveShards h.wellFormed).mp hs)
  have hage := Shard.age_eq_sub hlast hnow
  obtain ⟨hl₀, hl₁⟩ := hlast
  obtain ⟨hn₀, hn₁⟩ := hnow
  refine ⟨hage, ?_, ?_⟩ <;> omega

end

theorem not_expelled_of_maxTime_le {timeToLive : Int} {events : List Event}
    (hlimit : maxTime ≤ timeToLive) (htimes : ∀ e ∈ events, IsTime e.now) (host key : String) :
    ¬ Expelled timeToLive host key events := by
  rintro ⟨before, now, useTimestamp, after, t, rfl, -, -, hcontact, hlate⟩
  obtain ⟨e, he, rfl⟩ := mem_of_lastContact? hcontact
  obtain ⟨hcontact₀, -⟩ := htimes e (by simp [he])
  obtain ⟨-, hnow₁⟩ := htimes (.flush now useTimestamp) (by simp)
  simp only [Event.now] at hcontact₀ hnow₁ hlate
  omega

/-- What a cache holds is told by its history alone: the last sample of every item that came in and
was not expelled since, marked new unless it was flushed. -/
theorem held_by_history (timeToLive : Duration) {events : List Event}
    (htimes : ∀ e ∈ events, IsTime e.now) :
    let c := (create timeToLive.seconds).run events
    let limit := min (timeToLive.seconds : Int) maxTime
    (∀ host key, c.held host key ≠ [] ↔
      (∃ e ∈ events, e.feeds host key) ∧ ¬ Expelled limit host key events) ∧
    (∀ host key, c.held host key ≠ [] → ∃ sample, lastSample? host key events = some sample ∧
      c.held host key = [⟨sample, !flushedSince host key events⟩]) ∧
    (∀ host, (c.find? host).isSome ↔ ∃ key, c.held host key ≠ []) ∧
    (∃ hosts : List String, hosts.Nodup ∧ hosts.length = c.size ∧
      ∀ host, host ∈ hosts ↔ ∃ key, c.held host key ≠ []) ∧
    (∀ s ∈ c.liveShards, ∀ now, IsTime now →
      s.age now = now - s.lastAccess ∧ -maxTime ≤ s.age now ∧ s.age now ≤ maxTime) ∧
    (maxTime ≤ timeToLive.seconds →
      ∀ host key, c.held host key ≠ [] ↔ ∃ e ∈ events, e.feeds host key) := by
  intro c limit
  have h : c.Remembers limit events := remembers_run timeToLive.seconds htimes
  refine ⟨h.held_ne_nil_iff, fun host key => h.held_eq_last,
    fun host => isSome_find? h.wellFormed, ?_, fun s hs now => h.age_eq htimes hs, ?_⟩
  · refine ⟨c.liveShards.map (·.host), nodup_hosts h.wellFormed, ?_,
      fun host => mem_hosts h.wellFormed⟩
    rw [List.length_map, size_eq h.wellFormed]
  · intro hlong host key
    have hlimit : maxTime ≤ limit := Int.le_min.mpr ⟨hlong, Int.le_refl _⟩
    rw [h.held_ne_nil_iff, and_iff_left (not_expelled_of_maxTime_le hlimit htimes host key)]

/-- A flush expels a host that has been silent for a second longer than its time to live. -/
theorem held_by_history_silent_host :
    let events : List Event := [.insert default 0, .flush 10 true, .flush 301 true]
    let c := (create (Duration.ofSeconds 300).seconds).run events
    (∀ e ∈ events, IsTime e.now) ∧
      c.held (default : Sample).hostKey (default : Sample).itemKey = [] := by
  intro events c
  have htimes : ∀ e ∈ events, IsTime e.now := by decide
  refine ⟨htimes, ?_⟩
  by_contra hheld
  have hkept := ((held_by_history (Duration.ofSeconds 300) htimes).1 _ _).mp hheld
  refine hkept.2 ⟨[.insert default 0, .flush 10 true], 301, true, [], 0, rfl, ?_⟩
  decide

end ScrapeBridge.Cache
