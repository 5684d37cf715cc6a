import ScrapeBridge.Proofs.Bus.Quota

namespace ScrapeBridge.Connection

/-- A fault has ended the link, and no dial has succeeded since. -/
def Outstanding (history : List (Nat × Act)) : Prop :=
  ∃ past t reason since, history = past ++ (t, .took (.error (.fault reason))) :: since ∧
    ∀ a ∈ since, a.2 ≠ .entered .active

structure DownSince (history : List (Nat × Act)) (t : Nat) : Prop where
  outstanding : Outstanding history
  last : ∃ past, history = past ++ [(t, .reported .down), (t, .closedLink)]

/-- What keeps a connection from dialing again. -/
inductive Barred (c : Connection) : Prop
  | closed (hclosed : .error .closed ∈ c.taken)
  | limit {n : Nat} (hlimit : c.settings.messageCount = some n) (hn : n ≤ (bodies c.taken).length)
  | abandoned {b : Connection} {body : Body} {stopFirst : Bool} (hphase : b.phase = .pushing body)
      (hgone : b.consumerGone = true) (hstep : c = b.apply (.step stopFirst))
  | stopped {b : Connection} {stopFirst : Bool} (hstopping : b.stopping = true)
      (hserved : stopFirst = true ∨ b.proceed? = none) (hstep : c = b.apply (.step stopFirst))

section

variable {history : List (Nat × Act)} {t : Nat}

theorem Outstanding.append (h : Outstanding history) {more : List (Nat × Act)}
    (hmore : ∀ a ∈ more, a.2 ≠ .entered .active) : Outstanding (history ++ more) := by
  obtain ⟨past, t, reason, since, rfl, hsince⟩ := h
  refine ⟨past, t, reason, since ++ more, by simp, fun a ha => ?_⟩
  rcases List.mem_append.mp ha with ha | ha
  · exact hsince a ha
  · exact hmore a ha

end

theorem prefix_of_append {α : Type} {l r before : List α} {a : α} (ha : a ∉ r)
    (h : before ++ [a] <+: l ++ r) : before ++ [a] <+: l := by
  induction r using List.reverseRecOn with
  | nil => rwa [List.append_nil] at h
  | append_singleton r b ih =>
    rw [← List.append_assoc, List.prefix_concat_iff] at h
    rcases h with heq | h
    · have hlast := List.head_eq_of_cons_eq (List.append_inj' heq rfl).2
      exact absurd (by simp [hlast]) ha
    · exact ih (fun hmem => ha (List.mem_append_left _ hmem)) h

section

variable {c d : Connection}

theorem dials_eq_countP : c.dials = c.acts.countP (·.isDial) :=
  congrArg (c.acts.countP ·) (funext fun a => by cases a <;> rfl)

theorem Move.exists_history (h : c.Move d) :
    ∃ acts : List Act, d.history = c.history ++ acts.map (c.now, ·) := by
  cases h with
  | sleep hphase hnow => exact ⟨[], (List.append_nil _).symm⟩
  | @closed feed hphase hlimit hfeed =>
    exact ⟨[.took (.error .closed), .closedLink, .entered .closed], by
      simp [afterClose, Connection.finish, note, yielded]⟩
  | dial hphase =>
    generalize c.plan.headD .opened = outcome
    refine ⟨dialActs outcome, ?_⟩
    cases outcome <;> rfl
  | _ => exact ⟨_, rfl⟩

theorem Move.history_eq (h : c.Move d) {acts : List Act} (hacts : d.acts = c.acts ++ acts) :
    d.history = c.history ++ acts.map (c.now, ·) := by
  obtain ⟨acts', hhistory⟩ := h.exists_history
  have hacts' : d.acts = c.acts ++ acts' := by
    simp [Connection.acts, hhistory, Function.comp_def]
  rw [hhistory, List.append_cancel_left (hacts'.symm.trans hacts)]

theorem history_around {e : Event} (he : e.isStep = false) :
    (c.apply e).history = c.history ∧ (c.apply e).reconnects = c.reconnects ∧
      c.now ≤ (c.apply e).now := by
  cases e with
  | step stopFirst => cases he
  | receive => cases hbuffer : c.buffer <;> simp [apply, receive?, hbuffer]
  | advance nanoseconds => exact ⟨rfl, rfl, Nat.le_add_right _ _⟩
  | _ => exact ⟨rfl, rfl, Nat.le_refl _⟩

theorem countP_of_quiet {acts : List Act} (hdial : ∀ a ∈ acts, a.isDial = false) :
    acts.countP (·.isDial) = 0 := by
  apply List.countP_eq_zero.mpr
  intro a ha
  simp [hdial a ha]

theorem dials_of_quiet {acts : List Act} (hacts : d.acts = c.acts ++ acts)
    (hdial : ∀ a ∈ acts, a.isDial = false) : d.dials = c.dials := by
  rw [dials_eq_countP, hacts, List.countP_append, countP_of_quiet hdial, dials_eq_countP,
    Nat.add_zero]

end

def Poised (c : Connection) : Prop :=
  match c.phase with
  | .backingOff deadline =>
    c.atLimit = false ∧ ∃ t, DownSince c.history t ∧ deadline = t + c.wait
  | .redialing => c.atLimit = false ∧ ∃ t, DownSince c.history t ∧ t + c.wait ≤ c.now
  | _ => True

/-- A connection that has never dialed too early, and has counted its redials. -/
structure Paced (c : Connection) : Prop where
  sorted : c.history.Pairwise fun a b => a.1 ≤ b.1
  past : ∀ a ∈ c.history, a.1 ≤ c.now
  redials : ∀ before t, before ++ [(t, .dialed)] <+: c.history →
    before.any (·.2.isDial) = true → ∃ t', DownSince before t' ∧ t' + c.wait ≤ t
  poised : c.Poised
  closed : .error .closed ∈ c.taken → c.phase = .ended
  counted : c.phase ≠ .ended →
    c.reconnects + 1 = c.dials + if c.phase = .redialing then 1 else 0

section

variable {c d : Connection}

theorem Move.wait_eq (h : c.Move d) : d.wait = c.wait := by
  rw [wait, h.unchanged.settings_eq, wait]

theorem Paced.append (h : c.Paced) (hmove : c.Move d) {acts : List Act}
    (hacts : d.acts = c.acts ++ acts) :
    (d.history.Pairwise fun a b => a.1 ≤ b.1) ∧ ∀ a ∈ d.history, a.1 ≤ d.now := by
  have hnow : ∀ a ∈ acts.map (c.now, ·), a.1 = c.now := by
    intro a ha
    obtain ⟨_, -, rfl⟩ := List.mem_map.mp ha
    rfl
  rw [hmove.history_eq hacts, hmove.unchanged.now_eq]
  constructor
  · apply List.pairwise_append.mpr
    refine ⟨h.sorted, ?_, fun a ha b hb => ?_⟩
    · apply List.pairwise_of_forall_mem_list
      intro a ha b hb
      exact Nat.le_of_eq ((hnow a ha).trans (hnow b hb).symm)
    · rw [hnow b hb]
      exact h.past a ha
  · intro a ha
    rcases List.mem_append.mp ha with ha | ha
    · exact h.past a ha
    · exact Nat.le_of_eq (hnow a ha)

theorem Paced.closed_of_move (h : c.Paced) (hmove : c.Move d) {acts : List Act}
    (hacts : d.acts = c.acts ++ acts)
    (hclosed : .error .closed ∈ acts.filterMap (·.arrival?) → d.phase = .ended) :
    .error .closed ∈ d.taken → d.phase = .ended := by
  rw [taken, hacts, List.filterMap_append, List.mem_append]
  rintro (hbefore | hnow)
  · exact absurd (h.closed hbefore) hmove.not_ended
  · exact hclosed hnow

theorem dialed_not_mem {acts : List Act} (hdial : ∀ a ∈ acts, a.isDial = false) (t now : Nat) :
    (t, Act.dialed) ∉ acts.map (now, ·) := by
  intro hmem
  obtain ⟨a, ha, heq⟩ := List.mem_map.mp hmem
  cases heq
  cases hdial _ ha

theorem Paced.quiet (h : c.Paced) (hmove : c.Move d) {acts : List Act}
    (hacts : d.acts = c.acts ++ acts) (hdial : ∀ a ∈ acts, a.isDial = false)
    (hpoised : d.Poised)
    (hclosed : .error .closed ∈ acts.filterMap (·.arrival?) → d.phase = .ended)
    (hcounted : d.phase ≠ .ended → c.phase ≠ .redialing ∧
      d.reconnects = c.reconnects + if d.phase = .redialing then 1 else 0) : d.Paced := by
  obtain ⟨hsorted, hpast⟩ := h.append hmove hacts
  refine ⟨hsorted, hpast, fun before t hbefore hany => ?_, hpoised,
    h.closed_of_move hmove hacts hclosed, fun hphase => ?_⟩
  · rw [hmove.wait_eq]
    rw [hmove.history_eq hacts] at hbefore
    exact h.redials before t (prefix_of_append (dialed_not_mem hdial t c.now) hbefore) hany
  · obtain ⟨hnot, hreconnects⟩ := hcounted hphase
    have hcount := h.counted hmove.not_ended
    rw [if_neg hnot] at hcount
    rw [dials_of_quiet hacts hdial, hreconnects, Nat.add_right_comm, hcount, Nat.add_zero]

theorem exists_dialActs (outcome : DialOutcome) :
    ∃ rest, dialActs outcome = .dialed :: rest ∧ ∀ a ∈ rest, a.isDial = false := by
  cases outcome <;> exact ⟨_, rfl, by simp [Act.isDial]⟩

theorem dials_afterDial (outcome : DialOutcome) : (c.afterDial outcome).dials = c.dials + 1 := by
  obtain ⟨rest, hrest, hquiet⟩ := exists_dialActs outcome
  rw [dials_eq_countP, acts_afterDial, hrest, List.countP_append, List.countP_cons,
    countP_of_quiet hquiet, dials_eq_countP]
  rfl

theorem Paced.dial (h : c.Paced) (hphase : c.phase = .redialing) (outcome : DialOutcome)
    (hmove : c.Move (c.afterDial outcome)) : (c.afterDial outcome).Paced := by
  have hpoised := h.poised
  rw [Poised, hphase] at hpoised
  obtain ⟨hlimit, t, hdown, ht⟩ := hpoised
  have hacts := acts_afterDial c outcome
  have hhistory := hmove.history_eq hacts
  obtain ⟨rest, hrest, hquiet⟩ := exists_dialActs outcome
  obtain ⟨hsorted, hpast⟩ := h.append hmove hacts
  refine ⟨hsorted, hpast, fun before t' hbefore hany => ?_, ?_, h.closed_of_move hmove hacts ?_,
    fun _ => ?_⟩
  · rw [hmove.wait_eq]
    rw [hhistory, hrest, List.map_cons, List.append_cons c.history] at hbefore
    have hfirst := prefix_of_append (dialed_not_mem hquiet t' c.now) hbefore
    rcases List.prefix_concat_iff.mp hfirst with heq | hearlier
    · obtain ⟨hprior, hlast⟩ := List.append_inj' heq rfl
      cases hlast
      rw [hprior]
      exact ⟨t, hdown, ht⟩
    · exact h.redials before t' hearlier hany
  · cases outcome with
    | opened => trivial
    | unanswered => trivial
    | failed reason =>
      refine ⟨hlimit, c.now, ⟨?_, ?_⟩, rfl⟩
      · rw [hhistory]
        exact hdown.outstanding.append (by simp [dialActs])
      · exact ⟨c.history ++ [(c.now, .dialed)], by rw [hhistory]; simp [dialActs]⟩
  · cases outcome <;> simp [dialActs, Act.arrival?]
  · have hcount := h.counted hmove.not_ended
    rw [if_pos hphase] at hcount
    have hreconnects : (c.afterDial outcome).reconnects = c.reconnects := by cases outcome <;> rfl
    have hnot : (c.afterDial outcome).phase ≠ .redialing := by
      cases outcome <;> simp [afterDial, Connection.dial, backOff]
    rw [if_neg hnot, hreconnects, dials_afterDial]
    omega

theorem Paced.move (h : c.Paced) (hmove : c.Move d) : d.Paced := by
  have hended := hmove.not_ended
  cases hmove with
  | drained hphase hlimit =>
    exact h.quiet (.drained hphase hlimit) (acts_finish c true) (by simp [Act.isDial]) trivial
      (fun _ => rfl) (fun hopen => absurd rfl hopen)
  | stopped hphase hstopping =>
    exact h.quiet (.stopped hphase hstopping) (acts_finish c false) (by simp [Act.isDial]) trivial
      (fun _ => rfl) (fun hopen => absurd rfl hopen)
  | abandoned hphase hgone =>
    exact h.quiet (.abandoned hphase hgone) (acts_finish c false) (by simp [Act.isDial]) trivial
      (fun _ => rfl) (fun hopen => absurd rfl hopen)
  | @body body feed hphase hlimit hfeed =>
    exact h.quiet (.body hphase hlimit hfeed) (acts_afterBody c body feed) (by simp [Act.isDial])
      trivial (by simp [Act.arrival?]) fun _ => ⟨by simp [hphase], rfl⟩
  | @closed feed hphase hlimit hfeed =>
    exact h.quiet (.closed hphase hlimit hfeed) (acts_afterClose c feed) (by simp [Act.isDial])
      trivial (fun _ => rfl) (fun hopen => absurd rfl hopen)
  | @fault reason feed hphase hlimit hfeed =>
    have hmove : c.Move (c.afterFault reason feed) := .fault hphase hlimit hfeed
    have hacts := acts_afterFault c feed reason
    refine h.quiet hmove hacts (by simp [Act.isDial]) ⟨hlimit, c.now, ⟨?_, ?_⟩, rfl⟩
      (by simp [Act.arrival?]) fun _ => ⟨by simp [hphase], rfl⟩
    · rw [hmove.history_eq hacts]
      exact ⟨c.history, c.now, reason, _, rfl, by simp⟩
    · rw [hmove.history_eq hacts]
      exact ⟨c.history ++ [(c.now, .took (.error (.fault reason))), (c.now, .entered .reconnecting)],
        by simp⟩
  | @push body hphase hgone hroom =>
    exact h.quiet (.push hphase hgone hroom) (acts_afterPush c body) (by simp [Act.isDial])
      trivial (by simp [Act.arrival?]) fun _ => ⟨by simp [hphase], rfl⟩
  | @sleep deadline hphase hnow =>
    have hpoised := h.poised
    rw [Poised, hphase] at hpoised
    obtain ⟨hlimit, t, hdown, rfl⟩ := hpoised
    have hacts : c.afterSleep.acts = c.acts ++ [] := (List.append_nil _).symm
    exact h.quiet (.sleep hphase hnow) hacts (by simp) ⟨hlimit, t, hdown, hnow⟩ (by simp)
      fun _ => ⟨by simp [hphase], rfl⟩
  | dial hphase => exact h.dial hphase _ (.dial hphase)

theorem Paced.after (h : c.Paced) (e : Event) : (c.apply e).Paced := by
  have haround : e.isStep = false → (c.apply e).Paced := by
    intro he
    obtain ⟨hacts, hphase, hreceived⟩ := apply_around (c := c) he
    obtain ⟨hhistory, hreconnects, hnow⟩ := history_around (c := c) he
    have hsettings := settings_apply c e
    have hwait : (c.apply e).wait = c.wait := by rw [wait, hsettings, wait]
    have hlimit : (c.apply e).atLimit = c.atLimit := by
      rw [atLimit, hsettings, hreceived, atLimit]
    refine ⟨hhistory ▸ h.sorted, fun a ha => ?_, ?_, ?_, ?_, ?_⟩
    · exact Nat.le_trans (h.past a (hhistory ▸ ha)) hnow
    · rw [hhistory, hwait]
      exact h.redials
    · have hpoised := h.poised
      unfold Poised at hpoised ⊢
      rw [hphase, hhistory, hwait, hlimit]
      split
      case h_1 deadline hbacking => rwa [hbacking] at hpoised
      case h_2 hredialing =>
        rw [hredialing] at hpoised
        obtain ⟨hmore, t, hdown, ht⟩ := hpoised
        exact ⟨hmore, t, hdown, Nat.le_trans ht hnow⟩
      case h_3 => trivial
    · rw [taken, hacts, hphase]
      exact h.closed
    · rw [hphase, hreconnects, dials, hacts]
      exact h.counted
  cases e with
  | step stopFirst =>
    change ((c.step? stopFirst).getD c).Paced
    cases hstep : c.step? stopFirst with
    | none => exact h
    | some d => exact h.move (move_of_step? hstep)
  | _ => exact haround rfl

theorem Paced.run (h : c.Paced) (events : List Event) : (c.run events).Paced := by
  induction events using List.reverseRecOn with
  | nil => exact h
  | append_singleton events e ih =>
    rw [run_concat]
    exact ih.after e

theorem Move.counts_of_ended (h : c.Move d) (hended : d.phase = .ended) :
    d.reconnects = c.reconnects ∧ d.dials = c.dials ∧
      (c.phase = .redialing → c.stopping = true) := by
  cases h with
  | drained hphase hlimit =>
    exact ⟨rfl, dials_of_quiet (acts_finish c true) (by simp [Act.isDial]), by simp [hphase]⟩
  | stopped hphase hstopping =>
    exact ⟨rfl, dials_of_quiet (acts_finish c false) (by simp [Act.isDial]), fun _ => hstopping⟩
  | abandoned hphase hgone =>
    exact ⟨rfl, dials_of_quiet (acts_finish c false) (by simp [Act.isDial]), by simp [hphase]⟩
  | @closed feed hphase hlimit hfeed =>
    exact ⟨rfl, dials_of_quiet (acts_afterClose c feed) (by simp [Act.isDial]), by simp [hphase]⟩
  | dial hphase =>
    generalize c.plan.headD .opened = outcome at hended
    cases outcome <;> cases hended
  | _ => cases hended

theorem reconnects_apply_of_ended (h : c.phase = .ended) (e : Event) :
    (c.apply e).reconnects = c.reconnects := by
  cases e with
  | step stopFirst => simp [apply, step?_of_ended h]
  | receive => cases hbuffer : c.buffer <;> simp [apply, receive?, hbuffer]
  | _ => rfl

theorem Paced.counted_of_ended (h : c.Paced) (events : List Event)
    (hopen : c.phase ≠ .ended) (hended : (c.run events).phase = .ended) :
    (c.run events).reconnects + 1 = (c.run events).dials ∨
      ∃ past stopFirst later, events = past ++ .step stopFirst :: later ∧
        (c.run past).phase = .redialing ∧ (c.run past).stopping = true ∧
        (c.run (past ++ [.step stopFirst])).phase = .ended ∧
        (c.run events).reconnects = (c.run events).dials := by
  induction events using List.reverseRecOn with
  | nil => exact absurd hended hopen
  | append_singleton events e ih =>
    by_cases hearlier : (c.run events).phase = .ended
    · have hreconnects := reconnects_apply_of_ended hearlier e
      have hdials : ((c.run events).apply e).dials = (c.run events).dials := by
        rw [dials, Connection.acts, (history_apply_of_ended hearlier e).2, dials, Connection.acts]
      rw [run_concat, hreconnects, hdials]
      refine (ih hearlier).imp_right ?_
      rintro ⟨past, stopFirst, later, rfl, hstopped⟩
      exact ⟨past, stopFirst, later ++ [e], by simp, hstopped⟩
    · -- This is the event that ends the connection, and only a step can.
      rw [run_concat] at hended
      cases e with
      | step stopFirst =>
        have hcount := (h.run events).counted hearlier
        have hmove : (c.run events).Move ((c.run events).apply (.step stopFirst)) := by
          rw [apply] at hended ⊢
          cases hstep : (c.run events).step? stopFirst with
          | none =>
            rw [hstep] at hended
            exact absurd hended hearlier
          | some d => exact move_of_step? hstep
        obtain ⟨hreconnects, hdials, hstopping⟩ := hmove.counts_of_ended hended
        rw [run_concat, hreconnects, hdials]
        by_cases hphase : (c.run events).phase = .redialing
        · rw [if_pos hphase] at hcount
          refine .inr ⟨events, stopFirst, [], rfl, hphase, hstopping hphase, ?_, by omega⟩
          rwa [run_concat]
        · rw [if_neg hphase] at hcount
          exact .inl hcount
      | _ => exact absurd ((apply_around rfl).2.1.symm.trans hended) hearlier

theorem dials_apply (h : c.phase ≠ .redialing) (e : Event) : (c.apply e).dials = c.dials := by
  have haround : e.isStep = false → (c.apply e).dials = c.dials := by
    intro he
    rw [dials, (apply_around he).1, dials]
  cases e with
  | step stopFirst =>
    change ((c.step? stopFirst).getD c).dials = c.dials
    cases hstep : c.step? stopFirst with
    | none => rfl
    | some d =>
      cases move_of_step? hstep with
      | drained hphase hlimit => exact dials_of_quiet (acts_finish c true) (by simp [Act.isDial])
      | stopped hphase hstopping =>
        exact dials_of_quiet (acts_finish c false) (by simp [Act.isDial])
      | abandoned hphase hgone =>
        exact dials_of_quiet (acts_finish c false) (by simp [Act.isDial])
      | body hphase hlimit hfeed =>
        exact dials_of_quiet (acts_afterBody c _ _) (by simp [Act.isDial])
      | closed hphase hlimit hfeed =>
        exact dials_of_quiet (acts_afterClose c _) (by simp [Act.isDial])
      | fault hphase hlimit hfeed =>
        exact dials_of_quiet (acts_afterFault c _ _) (by simp [Act.isDial])
      | push hphase hgone hroom => exact dials_of_quiet (acts_afterPush c _) (by simp [Act.isDial])
      | sleep hphase hnow => rfl
      | dial hphase => exact absurd hphase h
  | _ => exact haround rfl

theorem received_apply (c : Connection) (e : Event) : c.received ≤ (c.apply e).received := by
  have haround : e.isStep = false → c.received ≤ (c.apply e).received := by
    intro he
    exact Nat.le_of_eq (apply_around he).2.2.symm
  cases e with
  | step stopFirst =>
    change c.received ≤ ((c.step? stopFirst).getD c).received
    cases hstep : c.step? stopFirst with
    | none => exact Nat.le_refl _
    | some d =>
      cases move_of_step? hstep with
      | body hphase hlimit hfeed => exact Nat.le_succ _
      | dial hphase =>
        generalize c.plan.headD .opened = outcome
        cases outcome <;> exact Nat.le_refl _
      | _ => exact Nat.le_refl _
  | _ => exact haround rfl

theorem atLimit_apply (h : c.atLimit = true) (e : Event) : (c.apply e).atLimit = true := by
  cases hlimit : c.settings.messageCount with
  | none => simp [atLimit, hlimit] at h
  | some n =>
    have hlater : (c.apply e).settings.messageCount = some n := by rw [settings_apply, hlimit]
    exact (atLimit_iff hlater).mpr (Nat.le_trans ((atLimit_iff hlimit).mp h) (received_apply c e))

theorem Paced.dials_of_atLimit (h : c.Paced) (hlimit : c.atLimit = true) (later : List Event) :
    (c.run later).atLimit = true ∧ (c.run later).dials = c.dials := by
  induction later using List.reverseRecOn with
  | nil => exact ⟨hlimit, rfl⟩
  | append_singleton later e ih =>
    obtain ⟨hlimit', hdials⟩ := ih
    have hpoised := (h.run later).poised
    have hphase : (c.run later).phase ≠ .redialing := by
      intro hphase
      rw [Poised, hphase, hlimit'] at hpoised
      cases hpoised.1
    rw [run_concat, dials_apply hphase]
    exact ⟨atLimit_apply hlimit' e, hdials⟩

theorem dials_of_ended (h : c.phase = .ended) (later : List Event) :
    (c.run later).dials = c.dials := by
  rw [dials, Connection.acts, (history_run_of_ended h later).2, dials, Connection.acts]

theorem ended_of_abandoned {body : Body} (hphase : c.phase = .pushing body)
    (hgone : c.consumerGone = true) (stopFirst : Bool) :
    (c.apply (.step stopFirst)).phase = .ended := by
  have hproceed : c.proceed? = some (c.finish false) := by simp [proceed?, hphase, hgone]
  have hstep : c.step? stopFirst = some (c.finish false) := by
    unfold step?
    rw [hproceed, if_neg (by simp [hphase]), if_neg (by simp [hphase])]
    cases c.stopping <;> cases stopFirst <;> rfl
  rw [apply, hstep]
  rfl

theorem ended_of_stopped (hstopping : c.stopping = true) {stopFirst : Bool}
    (hserved : stopFirst = true ∨ c.proceed? = none) :
    (c.apply (.step stopFirst)).phase = .ended := by
  by_cases hphase : c.phase = .ended
  · exact (history_apply_of_ended hphase _).1
  · have hstep : ∃ drained, c.step? stopFirst = some (c.finish drained) := by
      unfold step?
      rw [if_neg hphase, if_pos hstopping]
      split
      · exact ⟨true, rfl⟩
      · rcases hserved with rfl | hwaits
        · exact ⟨false, rfl⟩
        · rw [hwaits]
          cases stopFirst <;> exact ⟨false, rfl⟩
    obtain ⟨drained, hstep⟩ := hstep
    rw [apply, hstep]
    rfl

theorem Paced.dials_of_barred (h : c.Paced) (hreceived : c.received = (bodies c.taken).length)
    (hbarred : c.Barred) (later : List Event) : (c.run later).dials = c.dials := by
  cases hbarred with
  | closed hclosed => exact dials_of_ended (h.closed hclosed) later
  | limit hlimit hn =>
    have hat := (atLimit_iff hlimit).mpr (hreceived ▸ hn)
    exact (h.dials_of_atLimit hat later).2
  | abandoned hphase hgone hstep =>
    exact dials_of_ended (hstep ▸ ended_of_abandoned hphase hgone _) later
  | stopped hstopping hserved hstep =>
    exact dials_of_ended (hstep ▸ ended_of_stopped hstopping hserved) later

theorem DownSince.le_of_mem {history : List (Nat × Act)} {t t' : Nat} (h : DownSince history t)
    (hsorted : history.Pairwise fun a b => a.1 ≤ b.1) (hdial : (t', .dialed) ∈ history) :
    t' ≤ t := by
  obtain ⟨past, rfl⟩ := h.last
  have hpast : (t', Act.dialed) ∈ past := by simpa using hdial
  exact (List.pairwise_append.mp hsorted).2.2 _ hpast (t, .reported .down) (by simp)

end

section

variable {settings : ConnectionSettings} {endpoint : String} {feed : List Arrival}
  {plan : List DialOutcome} {c : Connection}

theorem paced_start (hstart : start settings endpoint feed plan = .ok c) :
    c.Paced ∧ c.phase ≠ .ended := by
  unfold start at hstart
  split at hstart
  · cases hstart
  · split at hstart <;> cases hstart
    refine ⟨⟨by simp, by simp, fun before t ⟨after, hafter⟩ hany => ?_, trivial, ?_, fun _ => rfl⟩,
      by simp⟩
    · rcases before with _ | ⟨a, _ | ⟨b, before⟩⟩
      · cases hany
      · cases hafter
        cases hany
      · rcases before with _ | ⟨a', _ | ⟨b', before⟩⟩ <;> simp at hafter
    · simp [taken, Connection.acts, Act.arrival?]

end

/-- A redial is made while a fault is outstanding, and after the wait that follows the last report
that the link is down. Nothing is dialed once the peer has closed the link, all messages have been
taken, the consumer has been found gone or a stop has been served. Redials are counted as they are
made, save one that a stop has come before. -/
theorem run_paces_redials {settings : ConnectionSettings} {endpoint : String}
    {feed : List Arrival} {plan : List DialOutcome} {c₀ : Connection}
    (hstart : start settings endpoint feed plan = .ok c₀) (events : List Event) :
    let c := c₀.run events
    let wait := min settings.reconnectBackoff.nanoseconds longestWait.nanoseconds
    (∀ before t, before ++ [(t, .dialed)] <+: c.history → before.any (·.2.isDial) = true →
      Outstanding before ∧
      (∃ past t', before = past ++ [(t', .reported .down), (t', .closedLink)] ∧ t' + wait ≤ t) ∧
      ∀ t', (t', .dialed) ∈ before → t' + wait ≤ t) ∧
    (c.Barred → ∀ later, (c.run later).dials = c.dials) ∧
    ∀ stopFirst, c.step? stopFirst = none →
      c.reconnects + 1 = c.dials ∨
        ∃ past stopFirst later, events = past ++ .step stopFirst :: later ∧
          (c₀.run past).phase = .redialing ∧ (c₀.run past).stopping = true ∧
          (c₀.run (past ++ [.step stopFirst])).phase = .ended ∧ c.reconnects = c.dials := by
  intro c wait
  obtain ⟨hpaced, hopen⟩ := paced_start hstart
  have h : c.Paced := hpaced.run events
  have hwait : c.wait = wait := by
    rw [Connection.wait, settings_run, settings_start hstart]
  refine ⟨fun before t hbefore hany => ?_, ?_, fun stopFirst hwaits => ?_⟩
  · obtain ⟨t', hdown, ht⟩ := h.redials before t hbefore hany
    have hsorted : before.Pairwise fun a b => a.1 ≤ b.1 :=
      h.sorted.sublist ((List.prefix_append _ _).trans hbefore).sublist
    rw [hwait] at ht
    obtain ⟨past, hpast⟩ := hdown.last
    refine ⟨hdown.outstanding, ⟨past, t', hpast, ht⟩, fun t'' hdial => ?_⟩
    exact Nat.le_trans (Nat.add_le_add_right (hdown.le_of_mem hsorted hdial) _) ht
  · exact h.dials_of_barred ((ledger_start hstart).run events).received_eq
  · by_cases hended : c.phase = .ended
    · exact hpaced.counted_of_ended events hopen hended
    · refine .inl ((h.counted hended).trans ?_)
      rw [if_neg, Nat.add_zero]
      intro hphase
      rw [step?_of_redialing hphase] at hwaits
      cases hwaits

/-- A dial fails, and a stop comes between the next wait and its dial. -/
theorem run_paces_redials_of_refused_dial :
    ∃ c₀, start ⟨0, .collectd, 1, .ofSeconds 2, none⟩ "broker/telemetry"
        [.error (.fault "reset")] [.opened, .failed "refused"] = .ok c₀ ∧
      let c := c₀.run [.step true, .advance 2000000000, .step true, .step true,
        .advance 3000000000, .step true, .stop, .step true]
      c.history.getLast? = some (5000000000, .entered .closed) ∧
      Outstanding (c.history.take 8) ∧ c.history[8]? = some (2000000000, .dialed) ∧
      c.dials = 2 ∧ c.reconnects = c.dials := by
  refine ⟨_, rfl, rfl, ?_, rfl, rfl, ?_⟩
  all_goals
    have hstart : start ⟨0, .collectd, 1, .ofSeconds 2, none⟩ "broker/telemetry"
      [.error (.fault "reset")] [.opened, .failed "refused"] = .ok _ := rfl
    have h := run_paces_redials hstart [.step true, .advance 2000000000, .step true, .step true,
      .advance 3000000000, .step true, .stop, .step true]
  · exact (h.1 _ 2000000000 ⟨_, rfl⟩ rfl).1
  · obtain ⟨_, _, _, _, _, _, _, hcount⟩ := (h.2.2 true rfl).resolve_left (by decide)
    exact hcount

/-- No wait is longer than thirty years, so that a redial comes before a longer backoff is over. -/
theorem redial_before_backoff :
    ∃ c₀ before t t', start ⟨0, .collectd, 10, .ofMilliseconds 10000000000000, none⟩
        "broker/telemetry" [.error (.fault "reset")] [] = .ok c₀ ∧
      before ++ [(t', .reported .down), (t', .closedLink), (t, .dialed)] <+:
        (c₀.run [.step true, .advance 946080000001000000, .step true, .step true]).history ∧
      t < t' + (Duration.ofMilliseconds 10000000000000).nanoseconds := by
  refine ⟨_, [(0, .entered .connecting), (0, .dialed), (0, .entered .active), (0, .reported .up),
    (0, .took (.error (.fault "reset"))), (0, .entered .reconnecting)], 946080000001000000, 0, rfl,
    ⟨[(946080000001000000, .entered .active), (946080000001000000, .reported .up)], rfl⟩,
    by decide⟩

end ScrapeBridge.Connection
