import Mathlib.Algebra.GroupWithZero.Nat
import Mathlib.Data.List.Basic
import ScrapeBridge.Proofs.Bridge.Start

namespace ScrapeBridge.Bridge

def Reaches (b b' : Bridge) : Prop := ∃ events, b.run events = b'

section

variable {b b' b'' : Bridge} {config : Config}

theorem Reaches.refl (b : Bridge) : b.Reaches b := ⟨[], rfl⟩

theorem Reaches.trans (h : b.Reaches b') (h' : b'.Reaches b'') : b.Reaches b'' := by
  obtain ⟨events, rfl⟩ := h
  obtain ⟨events', rfl⟩ := h'
  exact ⟨events ++ events', List.foldl_append⟩

theorem reaches_apply (b : Bridge) (e : Event) : b.Reaches (b.apply e) := ⟨[e], rfl⟩

theorem Sound.of_reaches (h : b.Sound config) (hreaches : b.Reaches b') : b'.Sound config := by
  obtain ⟨events, rfl⟩ := hreaches
  exact h.run events

theorem tell_eq_set {index : Nat} {c : Connection} (hc : b.connections[index]? = some c)
    (e : Connection.Event) :
    b.tell index e = { b with connections := b.connections.set index (c.apply e) } := by
  rw [tell, List.modify_eq_set_getElem?, hc]
  rfl

theorem reaches_set_settle {index : Nat} {c : Connection} (hc : b.connections[index]? = some c) :
    b.Reaches { b with connections := b.connections.set index c.settle } := by
  fun_induction Connection.settle c generalizing b with
  | case1 c hwaits =>
    obtain ⟨hi, rfl⟩ := List.getElem?_eq_some_iff.mp hc
    rw [List.set_getElem_self]
    exact .refl b
  | case2 c d hstep _ ih =>
    have hd : c.apply (.step true) = d := by simp [Connection.apply, hstep]
    have happly := b.reaches_apply (.step index true)
    rw [apply, tell_eq_set hc, hd] at happly
    obtain ⟨hi, -⟩ := List.getElem?_eq_some_iff.mp hc
    have hsettle := ih (b := { b with connections := b.connections.set index d }) (by simp [hi])
    rw [List.set_set] at hsettle
    exact happly.trans hsettle

theorem reaches_modify_settle (b : Bridge) (index : Nat) :
    b.Reaches { b with connections := b.connections.modify index (·.settle) } := by
  rw [List.modify_eq_set_getElem?]
  cases hc : b.connections[index]? with
  | none => exact .refl b
  | some c => exact reaches_set_settle hc

theorem reaches_settleConnections (b : Bridge) : b.Reaches b.settleConnections := by
  have hrest : ∀ (l : List Connection) (b : Bridge) (past : List Connection),
      b.connections = past ++ l →
        b.Reaches { b with connections := past ++ l.map (·.settle) } := by
    intro l
    induction l with
    | nil =>
      intro b past hb
      rw [List.map_nil, ← hb]
      exact .refl b
    | cons c l ih =>
      intro b past hb
      have hc : b.connections[past.length]? = some c := by simp [hb]
      have hone := reaches_set_settle hc
      have hset : b.connections.set past.length c.settle = past ++ [c.settle] ++ l := by simp [hb]
      rw [hset] at hone
      have hothers := ih { b with connections := past ++ [c.settle] ++ l } (past ++ [c.settle]) rfl
      rw [List.map_cons, List.append_cons]
      exact hone.trans hothers
  exact hrest b.connections b [] rfl

theorem reaches_settle_dispatcher (b : Bridge) (now : Int) :
    b.Reaches { b with dispatcher := b.dispatcher.settle now } := by
  generalize hd : b.dispatcher = d
  fun_induction Dispatcher.settle d now generalizing b with
  | case1 d hwaits => rw [← hd]; exact .refl b
  | case2 d e hadvance _ ih =>
    have hone : b.Reaches { b with dispatcher := e } := by
      subst hd
      rcases Option.or_eq_some_iff.mp hadvance with hstep | ⟨-, hintake⟩
      · have happly := b.reaches_apply .dispatch
        simpa [apply, hstep] using happly
      · obtain ⟨i, hi, rfl⟩ := Option.map_eq_some_iff.mp hintake
        rcases Option.or_eq_some_iff.mp hi with hwork | ⟨-, hletIn⟩
        · have happly := b.reaches_apply (.work now true)
          simpa [apply, hwork] using happly
        · have happly := b.reaches_apply .letIn
          simpa [apply, hletIn] using happly
    exact hone.trans (ih { b with dispatcher := e } rfl)

theorem reaches_of_deliver? {index : Nat} (h : b.deliver? index = some b') : b.Reaches b' := by
  have happly := b.reaches_apply (.deliver index)
  rwa [apply, h, Option.getD_some] at happly

theorem reaches_of_deliverOne? {now : Int} (h : b.deliverOne? now = some b') : b.Reaches b' := by
  unfold deliverOne? at h
  simp only [Option.bind_eq_bind, Option.bind_eq_some_iff, pure, Option.some.injEq] at h
  obtain ⟨index, -, delivered, hdeliver, rfl⟩ := h
  exact (reaches_of_deliver? hdeliver).trans
    ((delivered.reaches_modify_settle index).trans (reaches_settle_dispatcher _ now))

theorem reaches_deliverWithin (fuel : Nat) (b : Bridge) (now : Int) :
    b.Reaches (deliverWithin fuel b now) := by
  induction fuel generalizing b with
  | zero => exact .refl b
  | succ fuel ih =>
    rw [deliverWithin]
    split
    case h_1 => exact .refl b
    case h_2 delivered hdelivered => exact (reaches_of_deliverOne? hdelivered).trans (ih delivered)

theorem reaches_follow (b : Bridge) (index : Nat) : b.Reaches (b.follow index) := by
  unfold follow
  split
  case h_1 => exact .refl b
  case h_2 c hc =>
    generalize c.reports.length - c.reportsRead = n
    induction n with
    | zero => exact .refl b
    | succ n ih =>
      rw [Nat.repeat]
      exact ih.trans (reaches_apply _ (.report index))

theorem reaches_round (b : Bridge) (now : Int) : b.Reaches (b.round now) := by
  have hfollow : ∀ (l : List Nat) (b : Bridge), b.Reaches (l.foldl follow b) := by
    intro l
    induction l with
    | nil => exact .refl
    | cons index l ih => exact fun b => (b.reaches_follow index).trans (ih _)
  exact (b.reaches_settleConnections.trans (reaches_deliverWithin _ _ now)).trans (hfollow _ _)

theorem reaches_settleWithin (fuel : Nat) (b : Bridge) (now : Int) :
    b.Reaches (settleWithin fuel b now) := by
  induction fuel generalizing b with
  | zero => exact b.reaches_round now
  | succ fuel ih =>
    cases hpatience : (b.round now).patience? with
    | none =>
      unfold settleWithin
      simp only [hpatience]
      exact b.reaches_round now
    | some wait =>
      unfold settleWithin
      simp only [hpatience]
      exact (b.reaches_round now).trans ((reaches_apply _ (.advance wait)).trans (ih _))

theorem reaches_settle (b : Bridge) (now : Int) : b.Reaches (b.settle now) :=
  reaches_settleWithin _ b now

theorem reaches_shutDown (b : Bridge) (now : Int) : b.Reaches (b.shutDown now) :=
  (((b.reaches_apply .stop).trans (reaches_round _ now)).trans ⟨[.passStop, .passStop], rfl⟩).trans
    (reaches_settle_dispatcher _ now)

def buffered (b : Bridge) : Nat := (b.connections.map (·.buffer.length)).sum

theorem buffered_set {index : Nat} {c d : Connection} (hc : b.connections[index]? = some c)
    (hd : d.buffer.length < c.buffer.length) :
    ((b.connections.set index d).map (·.buffer.length)).sum < b.buffered := by
  obtain ⟨hi, rfl⟩ := List.getElem?_eq_some_iff.mp hc
  have hsplit : b.connections =
      b.connections.take index ++ b.connections[index] :: b.connections.drop (index + 1) := by
    rw [List.getElem_cons_drop, List.take_append_drop]
  have hbefore : b.buffered = ((b.connections.take index).map (·.buffer.length)).sum +
      (b.connections[index].buffer.length +
        ((b.connections.drop (index + 1)).map (·.buffer.length)).sum) := by
    rw [buffered, congrArg (List.map (·.buffer.length)) hsplit, List.map_append, List.map_cons,
      List.sum_append, List.sum_cons]
  rw [hbefore, List.set_eq_take_append_cons_drop, if_pos hi, List.map_append, List.map_cons,
    List.sum_append, List.sum_cons]
  omega

/-- A bridge that is being stopped: its connections have ended. -/
structure Stopping (b : Bridge) (config : Config) : Prop where
  sound : b.Sound config
  stopping : b.stopping = true
  ended : b.allEnded = true

theorem Stopping.settle_dispatcher (h : b.Stopping config) (now : Int) :
    { b with dispatcher := b.dispatcher.settle now }.Stopping config :=
  ⟨h.sound.of_reaches (b.reaches_settle_dispatcher now), h.stopping, h.ended⟩

theorem Sound.stopping_reached (h : b.Sound config) : ∃ b', b.Reaches b' ∧ b'.Stopping config := by
  have hreaches := (b.reaches_apply .stop).trans (reaches_settleConnections _)
  refine ⟨_, hreaches, h.of_reaches hreaches, rfl, ?_⟩
  apply List.all_eq_true.mpr
  intro d hd
  obtain ⟨c, hc, rfl⟩ := List.mem_map.mp hd
  obtain ⟨c, -, rfl⟩ := List.mem_map.mp hc
  exact decide_eq_true (Connection.phase_settle rfl)

theorem Stopping.deliver (h : b.Stopping config) (hidle : b.dispatcher.task = .idle)
    (htaken : b.allTaken = false) :
    ∃ b', b.Reaches b' ∧ b'.Stopping config ∧ b'.buffered < b.buffered := by
  obtain ⟨c, hmem, hbuffer⟩ := List.all_eq_false.mp htaken
  obtain ⟨index, hc⟩ := List.mem_iff_getElem?.mp hmem
  cases hbody : c.buffer with
  | nil => simp [hbody] at hbuffer
  | cons body rest =>
    have hdeliver : b.deliver? index = some { b with
        connections := b.connections.set index
          { c with buffer := rest, consumed := c.consumed ++ [body] }
        dispatcher := b.dispatcher.begin (origin c) body
        handed := b.handed ++ [(index, origin c, body)] } := by
      simp [deliver?, Dispatcher.isIdle, hidle, hc, Connection.receive?, hbody]
    refine ⟨_, reaches_of_deliver? hdeliver, ⟨h.sound.deliver hdeliver, h.stopping, ?_⟩, ?_⟩
    · apply List.all_eq_true.mpr
      intro d hd
      rcases List.mem_or_eq_of_mem_set hd with hd | rfl
      · exact List.all_eq_true.mp h.ended d hd
      · exact List.all_eq_true.mp h.ended c hmem
    · exact buffered_set hc (by simp [hbody])

theorem Stopping.passStop (h : b.Stopping config) (hidle : b.dispatcher.task = .idle)
    (htaken : b.allTaken = true) :
    ∃ b', b.Reaches b' ∧ b'.Stopping config ∧ b'.dispatcher.task = .stopped := by
  have hpass : b.passStop? =
      some { b with dispatcher := { b.dispatcher with task := .stopped } } := by
    simp [passStop?, h.ended, htaken, Dispatcher.isIdle, hidle]
  have hreaches := b.reaches_apply .passStop
  rw [apply, hpass, Option.getD_some] at hreaches
  exact ⟨_, hreaches, ⟨h.sound.passStop hpass, h.stopping, h.ended⟩, rfl⟩

theorem Stopping.dispatcher_stopped (h : b.Stopping config) (now : Int) :
    ∃ b', b.Reaches b' ∧ b'.Stopping config ∧ b'.dispatcher.task = .stopped := by
  generalize hn : b.buffered = n
  induction n using Nat.strongRecOn generalizing b with
  | ind n ih =>
    have hreaches := b.reaches_settle_dispatcher now
    have hsettled := h.settle_dispatcher now
    rcases hsettled.sound.dispatched.waits (b.dispatcher.advance?_settle now) with hidle | hstopped
    · by_cases htaken : b.allTaken = true
      · obtain ⟨b', hb', hstopping, hstopped⟩ := hsettled.passStop hidle htaken
        exact ⟨b', hreaches.trans hb', hstopping, hstopped⟩
      · obtain ⟨b', hb', hstopping, hless⟩ :=
          hsettled.deliver hidle (Bool.eq_false_iff.mpr htaken)
        obtain ⟨b'', hb'', hdone⟩ := ih b'.buffered (hn ▸ hless) hstopping rfl
        exact ⟨b'', (hreaches.trans hb').trans hb'', hdone⟩
    · exact ⟨_, hreaches, hsettled, hstopped⟩

theorem Sound.stopped_reached (h : b.Sound config) (now : Int) :
    ∃ b', b.Reaches b' ∧ b'.isStopped = true := by
  obtain ⟨b₁, hreaches₁, hstopping₁⟩ := h.stopping_reached
  obtain ⟨b₂, hreaches₂, hstopping₂, htask⟩ := hstopping₁.dispatcher_stopped now
  have hpass : b₂.passStop? = some { b₂ with
      dispatcher := { b₂.dispatcher with intake := b₂.dispatcher.intake.stop } } := by
    simp [passStop?, hstopping₂.ended, hstopping₂.stopping, Dispatcher.isIdle,
      Dispatcher.isStopped, htask]
  have hreaches₃ := b₂.reaches_apply .passStop
  rw [Bridge.apply, hpass, Option.getD_some] at hreaches₃
  have hworker := Dispatcher.worker_settle now
    (d := { b₂.dispatcher with intake := b₂.dispatcher.intake.stop }) htask
    hstopping₂.sound.dispatched.started rfl
  refine ⟨_, ((hreaches₁.trans hreaches₂).trans hreaches₃).trans
    (reaches_settle_dispatcher _ now), ?_⟩
  simp [isStopped, hstopping₂.stopping, hworker]

/-- Whatever a bridge has been doing since it was started, it can be brought to a stop. -/
theorem can_stop {route : Nat → SourceConfig → Except String Route}
    (hstart : start config route = (b, none)) (events : List Event) :
    ∃ later, (b.run (events ++ later)).isStopped = true := by
  obtain ⟨b', ⟨later, hlater⟩, hstopped⟩ := ((sound_start hstart).run events).stopped_reached 0
  refine ⟨later, ?_⟩
  rwa [run, List.foldl_append, ← run, ← run, hlater]

end

end ScrapeBridge.Bridge
