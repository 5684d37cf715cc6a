import Mathlib.Data.List.Induction
import ScrapeBridge.Bridge
import ScrapeBridge.Proofs.Bus.Consumer
import ScrapeBridge.Proofs.Dispatch

namespace ScrapeBridge.Bridge

/-- The bodies of one connection that the dispatcher has been handed. -/
def handedBy (b : Bridge) (index : Nat) : List Body :=
  (b.handed.filter (·.1 = index)).map (·.2.2)

/-- What the dispatcher has been handed is, connection by connection, what the connections have
given up, and the dispatcher does not stop before they have all ended and nothing is left in their
buffers. -/
structure Sound (b : Bridge) (config : Config) : Prop where
  config_eq : b.config = config
  complete : b.connections.length = config.connections.length
  kept : ∀ c ∈ b.connections, c.Kept
  dispatched : b.dispatcher.Ledger config.timeToLive.seconds (b.handed.map (·.2))
  handed_origin : ∀ h ∈ b.handed, b.connections[h.1]?.map origin = some h.2.1
  handed_eq : ∀ i c, b.connections[i]? = some c → b.handedBy i = c.consumed
  finished : b.dispatcher.isStopped = true → b.allEnded = true ∧ b.allTaken = true

section

variable {b : Bridge} {config : Config}

theorem Sound.follow (h : b.Sound config) {l : List Connection}
    (hlength : l.length = b.connections.length)
    (hfollows : ∀ (i : Nat) (c d : Connection),
      b.connections[i]? = some c → l[i]? = some d → c.Follows d) :
    { b with connections := l }.Sound config := by
  have hforth : ∀ (i : Nat) (c : Connection), b.connections[i]? = some c →
      ∃ d, l[i]? = some d ∧ c.Follows d := by
    intro i c hc
    obtain ⟨hi, -⟩ := List.getElem?_eq_some_iff.mp hc
    have hd : l[i]? = some l[i] := List.getElem?_eq_getElem (hlength ▸ hi)
    exact ⟨_, hd, hfollows i c _ hc hd⟩
  have hback : ∀ (i : Nat) (d : Connection), l[i]? = some d →
      ∃ c, b.connections[i]? = some c ∧ c.Follows d := by
    intro i d hd
    obtain ⟨hi, -⟩ := List.getElem?_eq_some_iff.mp hd
    have hc : b.connections[i]? = some b.connections[i] := List.getElem?_eq_getElem (hlength ▸ hi)
    exact ⟨_, hc, hfollows i _ d hc hd⟩
  refine ⟨h.config_eq, hlength.trans h.complete, ?_, h.dispatched, ?_, ?_, ?_⟩
  · intro d hd
    obtain ⟨i, hi⟩ := List.mem_iff_getElem?.mp hd
    obtain ⟨c, hc, hcd⟩ := hback i d hi
    exact hcd.kept
  · intro g hg
    obtain ⟨c, hc, horigin⟩ := Option.map_eq_some_iff.mp (h.handed_origin g hg)
    obtain ⟨d, hd, hcd⟩ := hforth g.1 c hc
    rw [hd, ← horigin, Option.map_some, origin, origin, hcd.endpoint_eq, hcd.settings_eq]
  · intro i d hd
    obtain ⟨c, hc, hcd⟩ := hback i d hd
    exact (h.handed_eq i c hc).trans hcd.consumed_eq.symm
  · intro hstopped
    obtain ⟨hended, htaken⟩ := h.finished hstopped
    have hall : ∀ d ∈ l, d.hasEnded = true ∧ d.buffer.isEmpty = true := by
      intro d hd
      obtain ⟨i, hi⟩ := List.mem_iff_getElem?.mp hd
      obtain ⟨c, hc, hcd⟩ := hback i d hi
      have hmem := List.mem_of_getElem? hc
      obtain ⟨hphase, hbuffer⟩ := hcd.ended (of_decide_eq_true (List.all_eq_true.mp hended c hmem))
      rw [hbuffer]
      exact ⟨decide_eq_true hphase, List.all_eq_true.mp htaken c hmem⟩
    exact ⟨List.all_eq_true.mpr fun d hd => (hall d hd).1,
      List.all_eq_true.mpr fun d hd => (hall d hd).2⟩

theorem Sound.tell (h : b.Sound config) (index : Nat) {e : Connection.Event}
    (he : e.isOutside = true) : (b.tell index e).Sound config := by
  refine h.follow (List.length_modify _ _ _) ?_
  intro i c d hc hd
  have hkept := h.kept c (List.mem_of_getElem? hc)
  rw [List.getElem?_modify, hc] at hd
  by_cases hi : index = i
  · simp only [hi, if_true] at hd
    cases hd
    exact hkept.follows_apply he
  · simp only [hi, if_false] at hd
    cases hd
    exact hkept.follows_self

theorem Sound.tellAll (h : b.Sound config) {e : Connection.Event} (he : e.isOutside = true) :
    (b.tellAll e).Sound config := by
  refine h.follow (List.length_map _) ?_
  intro i c d hc hd
  rw [List.getElem?_map, hc] at hd
  cases hd
  exact (h.kept c (List.mem_of_getElem? hc)).follows_apply he

theorem Sound.report (h : b.Sound config) {index : Nat} {b' : Bridge}
    (hreport : b.report? index = some b') : b'.Sound config := by
  obtain ⟨c, hc, s, -, rfl⟩ : ∃ c, b.connections[index]? = some c ∧
      ∃ s, c.reports[c.reportsRead]? = some s ∧ b' = { b with
        connections := b.connections.set index { c with reportsRead := c.reportsRead + 1 }
        health := { b.health with bus := s } } := by
    unfold report? at hreport
    simp only [Option.bind_eq_bind, Option.bind_eq_some_iff, pure, Option.some.injEq] at hreport
    obtain ⟨c, hc, s, hs, rfl⟩ := hreport
    exact ⟨c, hc, s, hs, rfl⟩
  have hread := h.follow (l := b.connections.set index { c with reportsRead := c.reportsRead + 1 })
    List.length_set ?_
  · exact { hread with }
  · intro i c' d hc' hd
    have hkept := h.kept c' (List.mem_of_getElem? hc')
    rw [List.getElem?_set] at hd
    by_cases hi : index = i
    · subst hi
      rw [hc] at hc'
      cases hc'
      obtain ⟨hlength, -⟩ := List.getElem?_eq_some_iff.mp hc
      simp only [if_true, hlength] at hd
      cases hd
      exact hkept.follows_read _
    · rw [if_neg hi, hc'] at hd
      cases hd
      exact hkept.follows_self

theorem deliver?_eq_some {index : Nat} {b' : Bridge} (hdeliver : b.deliver? index = some b') :
    b.dispatcher.task = .idle ∧ ∃ c body d, b.connections[index]? = some c ∧
      c.receive? = some (body, d) ∧ b' = { b with
        connections := b.connections.set index d
        dispatcher := b.dispatcher.begin (origin c) body
        handed := b.handed ++ [(index, origin c, body)] } := by
  unfold deliver? at hdeliver
  split at hdeliver
  · cases hdeliver
  case isFalse hidle =>
    simp only [Option.bind_eq_bind, Option.bind_eq_some_iff, pure, Option.some.injEq] at hdeliver
    obtain ⟨c, hc, ⟨body, d⟩, hreceive, rfl⟩ := hdeliver
    refine ⟨Dispatcher.task_of_isIdle ?_, c, body, d, hc, hreceive, rfl⟩
    simpa using hidle

theorem Sound.deliver (h : b.Sound config) {index : Nat} {b' : Bridge}
    (hdeliver : b.deliver? index = some b') : b'.Sound config := by
  obtain ⟨hidle, c, body, d, hc, hreceive, rfl⟩ := deliver?_eq_some hdeliver
  obtain ⟨hkept, hconsumed, hsettings, hendpoint⟩ :=
    (h.kept c (List.mem_of_getElem? hc)).receive hreceive
  have horigin : origin d = origin c := by rw [origin, hendpoint, hsettings, origin]
  obtain ⟨hlength, -⟩ := List.getElem?_eq_some_iff.mp hc
  refine ⟨h.config_eq, List.length_set.trans h.complete, ?_, ?_, ?_, ?_, ?_⟩
  · intro e he
    rcases List.mem_or_eq_of_mem_set he with he | rfl
    · exact h.kept e he
    · exact hkept
  · have hbegin := h.dispatched.begin hidle (origin c) body
    rwa [List.map_append]
  · -- The connection that gives the body keeps its origin, as all the others do.
    have hset : ∀ g : Nat × Origin × Body, b.connections[g.1]?.map origin = some g.2.1 →
        (b.connections.set index d)[g.1]?.map origin = some g.2.1 := by
      intro g hg
      rw [List.getElem?_set]
      by_cases hi : index = g.1
      · rw [← hi, hc] at hg
        rw [← hi, if_pos rfl, if_pos hlength, Option.map_some, horigin]
        exact hg
      · rwa [if_neg hi]
    intro g hg
    rcases List.mem_append.mp hg with hg | hg
    · exact hset g (h.handed_origin g hg)
    · rw [List.mem_singleton.mp hg]
      exact hset (index, origin c, body) (by rw [hc]; rfl)
  · intro i e he
    rw [List.getElem?_set] at he
    by_cases hi : index = i
    · subst hi
      rw [if_pos rfl, if_pos hlength] at he
      cases he
      rw [hconsumed, ← h.handed_eq index c hc]
      simp [handedBy]
    · rw [if_neg hi] at he
      rw [← h.handed_eq i e he]
      simp [handedBy, hi]
  · intro hstopped
    have hbegin : (b.dispatcher.begin (origin c) body).isStopped = false := by
      unfold Dispatcher.begin
      split
      · rfl
      · rw [Dispatcher.isStopped, hidle]
    rw [hbegin] at hstopped
    cases hstopped

theorem Sound.passStop (h : b.Sound config) {b' : Bridge} (hpass : b.passStop? = some b') :
    b'.Sound config := by
  unfold passStop? at hpass
  split at hpass
  · cases hpass
  case isFalse hended =>
    have hended' : b.allEnded = true := by simpa using hended
    split at hpass
    case isTrue hready =>
      cases hpass
      have hidle := Dispatcher.task_of_isIdle hready.1
      exact { h with
        dispatched := h.dispatched.stopTask hidle
        finished := fun _ => ⟨hended', hready.2⟩ }
    case isFalse =>
      split at hpass <;> cases hpass
      case isTrue hstopped =>
        exact { h with dispatched := h.dispatched.stopIntake hstopped.2 }

theorem Sound.intake (h : b.Sound config) {now : Int} {i : Intake}
    (hmove : b.dispatcher.intake.Move now i) :
    { b with dispatcher := { b.dispatcher with intake := i } }.Sound config :=
  { h with dispatched := h.dispatched.move hmove }

theorem Sound.dispatch (h : b.Sound config) {d : Dispatcher} (hstep : b.dispatcher.step? = some d) :
    { b with dispatcher := d }.Sound config := by
  obtain ⟨hledger, hrunning⟩ := h.dispatched.step hstep
  refine { h with dispatched := hledger, finished := ?_ }
  intro hstopped
  rw [show d.isStopped = true from hstopped] at hrunning
  cases hrunning

theorem Sound.getD {o : Option Bridge} (h : b.Sound config)
    (ho : ∀ b', o = some b' → b'.Sound config) : (o.getD b).Sound config := by
  cases o with
  | none => exact h
  | some b' => exact ho b' rfl

theorem Sound.scrape (h : b.Sound config) (nowMs : Int) : (b.scrape nowMs).2.Sound config :=
  { h with dispatched := h.dispatched.flush (nowMs / 1000) b.config.useTimestamp }

theorem Sound.apply (h : b.Sound config) (e : Event) : (b.apply e).Sound config := by
  cases e with
  | feed index arrivals => exact h.tell index rfl
  | plan index outcomes => exact h.tell index rfl
  | advance nanoseconds => exact h.tellAll rfl
  | close index => exact h.tell index rfl
  | step index stopFirst => exact h.tell index rfl
  | scrape nowMs => exact h.scrape nowMs
  | deliver index => exact h.getD fun b' hdeliver => h.deliver hdeliver
  | report index => exact h.getD fun b' hreport => h.report hreport
  | passStop => exact h.getD fun b' hpass => h.passStop hpass
  | dispatch =>
    refine h.getD fun b' hb' => ?_
    obtain ⟨d, hstep, rfl⟩ := Option.map_eq_some_iff.mp hb'
    exact h.dispatch hstep
  | work now stopFirst =>
    refine h.getD fun b' hb' => ?_
    obtain ⟨i, hwork, rfl⟩ := Option.map_eq_some_iff.mp hb'
    exact h.intake (Intake.move_of_work? hwork)
  | letIn =>
    refine h.getD fun b' hb' => ?_
    obtain ⟨i, hletIn, rfl⟩ := Option.map_eq_some_iff.mp hb'
    exact h.intake (Intake.move_of_letIn? hletIn 0)
  | stop =>
    have hstop := h.tellAll (e := .stop) rfl
    exact { hstop with }

theorem Sound.run (h : b.Sound config) (events : List Event) : (b.run events).Sound config := by
  induction events generalizing b with
  | nil => exact h
  | cons e events ih => exact ih (h.apply e)

end

end ScrapeBridge.Bridge
