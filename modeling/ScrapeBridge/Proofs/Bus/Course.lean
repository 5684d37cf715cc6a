import ScrapeBridge.Proofs.Bus.Delivery

namespace ScrapeBridge.Connection

/-- A time without a link: the fault that it began with, and those of the tries that failed. -/
structure Outage where
  fault : String
  failures : List String

/-- What a connection has been through. -/
structure Course where
  past : List Outage := []
  present : Option Outage := none
  unanswered : Bool := false
  ended : Bool := false

namespace Act

def isOfCourse : Act → Bool
  | took (.error (.fault _)) => true
  | took _ => false
  | pushed _ => false
  | finished => false
  | _ => true

def state? : Act → Option ConnectionState
  | entered s => some s
  | _ => none

def report? : Act → Option LinkStatus
  | reported s => some s
  | _ => none

def fault? : Act → Option String
  | took (.error (.fault reason)) => some reason
  | _ => none

def isDial : Act → Bool
  | dialed => true
  | _ => false

def isClose : Act → Bool
  | closedLink => true
  | _ => false

end Act

def Outage.acts (o : Outage) : List Act :=
  [.took (.error (.fault o.fault)), .entered .reconnecting, .reported .down, .closedLink] ++
    o.failures.flatMap fun _ => [.dialed, .reported .down, .closedLink]

namespace Course

def acts (s : Course) : List Act :=
  [.entered .connecting, .dialed, .entered .active, .reported .up] ++
    s.past.flatMap (fun o => o.acts ++ [.dialed, .entered .active, .reported .up]) ++
    s.present.toList.flatMap (·.acts) ++ (if s.unanswered then [.dialed] else []) ++
    if s.ended then [.closedLink, .entered .closed] else []

def outcomes (s : Course) : List DialOutcome :=
  [.opened] ++ s.past.flatMap (fun o => o.failures.map .failed ++ [.opened]) ++
    s.present.toList.flatMap (fun o => o.failures.map .failed) ++
    if s.unanswered then [.unanswered] else []

/-- Where a task stands that has taken a course. -/
def Fits (s : Course) : Phase → Prop
  | .receiving => s.present = none ∧ s.unanswered = false ∧ s.ended = false
  | .pushing _ => s.present = none ∧ s.unanswered = false ∧ s.ended = false
  | .backingOff _ => s.present.isSome ∧ s.unanswered = false ∧ s.ended = false
  | .redialing => s.present.isSome ∧ s.unanswered = false ∧ s.ended = false
  | .hanging => s.present.isSome ∧ s.unanswered = true ∧ s.ended = false
  | .ended => s.ended = true

end Course

section

variable (o : Outage) (s : Course)

theorem Outage.states_acts : o.acts.filterMap (·.state?) = [.reconnecting] := by
  have hfailures : ∀ l : List String, (l.flatMap fun _ =>
      [Act.dialed, .reported .down, .closedLink]).filterMap (·.state?) = [] := by
    intro l
    induction l with
    | nil => rfl
    | cons reason l ih => exact ih
  rw [acts, List.filterMap_append, hfailures]
  rfl

theorem Outage.reports_acts :
    o.acts.filterMap (·.report?) = List.replicate (1 + o.failures.length) .down := by
  have hfailures : ∀ l : List String, (l.flatMap fun _ =>
      [Act.dialed, .reported .down, .closedLink]).filterMap (·.report?) =
        List.replicate l.length .down := by
    intro l
    induction l with
    | nil => rfl
    | cons reason l ih => exact congrArg (.down :: ·) ih
  rw [acts, List.filterMap_append, hfailures, List.replicate_add]
  rfl

theorem Course.states_acts :
    s.acts.filterMap (·.state?) =
      [.connecting, .active] ++ s.past.flatMap (fun _ => [.reconnecting, .active]) ++
        s.present.toList.map (fun _ => .reconnecting) ++ if s.ended then [.closed] else [] := by
  have hend : (if s.ended then [Act.closedLink, .entered .closed] else []).filterMap (·.state?) =
      if s.ended then [.closed] else [] := by
    cases s.ended <;> rfl
  have hdial : (if s.unanswered then [Act.dialed] else []).filterMap (·.state?) = [] := by
    cases s.unanswered <;> rfl
  simp only [acts, List.filterMap_append, List.filterMap_flatMap, Outage.states_acts, hend, hdial]
  cases s.present <;> simp [Act.state?]

theorem Course.reports_acts :
    s.acts.filterMap (·.report?) =
      [.up] ++ s.past.flatMap (fun o => List.replicate (1 + o.failures.length) .down ++ [.up]) ++
        s.present.toList.flatMap fun o => List.replicate (1 + o.failures.length) .down := by
  have hend : (if s.ended then [Act.closedLink, .entered .closed] else []).filterMap (·.report?) =
      [] := by
    cases s.ended <;> rfl
  have hdial : (if s.unanswered then [Act.dialed] else []).filterMap (·.report?) = [] := by
    cases s.unanswered <;> rfl
  simp only [acts, List.filterMap_append, List.filterMap_flatMap, Outage.reports_acts, hend, hdial]
  simp [Act.report?]

end

def isFailed : DialOutcome → Bool
  | .failed _ => true
  | _ => false

/-- Acts and the outcomes of the dials among them. There is a report for each fault and each
outcome, and a close for each report that the link is down. -/
structure Tally (acts : List Act) (outcomes : List DialOutcome) : Prop where
  dials : acts.countP (·.isDial) = outcomes.length
  downs : (acts.filterMap (·.report?)).count .down =
    (acts.filterMap (·.fault?)).length + outcomes.countP isFailed
  ups : (acts.filterMap (·.report?)).count .up = outcomes.count .opened
  closes : acts.countP (·.isClose) = (acts.filterMap (·.report?)).count .down

section

variable {acts acts' : List Act} {outcomes outcomes' : List DialOutcome}

theorem Tally.append (h : Tally acts outcomes) (h' : Tally acts' outcomes') :
    Tally (acts ++ acts') (outcomes ++ outcomes') where
  dials := by rw [List.countP_append, List.length_append, h.dials, h'.dials]
  downs := by
    simp only [List.filterMap_append, List.count_append, List.countP_append, List.length_append,
      h.downs, h'.downs]
    omega
  ups := by rw [List.filterMap_append, List.count_append, List.count_append, h.ups, h'.ups]
  closes := by
    rw [List.countP_append, List.filterMap_append, List.count_append, h.closes, h'.closes]

theorem tally_flatMap {α : Type} {f : α → List Act} {g : α → List DialOutcome}
    (h : ∀ a, Tally (f a) (g a)) (l : List α) : Tally (l.flatMap f) (l.flatMap g) := by
  induction l with
  | nil => exact ⟨rfl, rfl, rfl, rfl⟩
  | cons a l ih => exact (h a).append ih

theorem Outage.tally_acts (o : Outage) : Tally o.acts (o.failures.map .failed) := by
  have hfault : Tally [.took (.error (.fault o.fault)), .entered .reconnecting, .reported .down,
      .closedLink] [] := ⟨rfl, rfl, rfl, rfl⟩
  have hfailures := tally_flatMap (g := fun reason => [.failed reason])
    (fun _ => (⟨rfl, rfl, rfl, rfl⟩ : Tally [.dialed, .reported .down, .closedLink] _)) o.failures
  rw [← List.map_eq_flatMap] at hfailures
  exact hfault.append hfailures

theorem Course.tally_acts {s : Course} (hended : s.ended = false) : Tally s.acts s.outcomes := by
  have hstart : Tally [.entered .connecting, .dialed, .entered .active, .reported .up] [.opened] :=
    ⟨rfl, rfl, rfl, rfl⟩
  have hlink : Tally [.dialed, .entered .active, .reported .up] [.opened] := ⟨rfl, rfl, rfl, rfl⟩
  have hpast := tally_flatMap (fun o => (Outage.tally_acts o).append hlink) s.past
  have hpresent := tally_flatMap Outage.tally_acts s.present.toList
  have hdial : Tally (if s.unanswered then [.dialed] else [])
      (if s.unanswered then [.unanswered] else []) := by
    cases s.unanswered <;> exact ⟨rfl, rfl, rfl, rfl⟩
  have hall := ((hstart.append hpast).append hpresent).append hdial
  rw [acts, hended, if_neg Bool.false_ne_true, List.append_nil]
  exact hall

theorem Course.counts_acts (s : Course) :
    s.acts.countP (·.isDial) = s.outcomes.length ∧
    (s.acts.filterMap (·.report?)).count .down =
      (s.acts.filterMap (·.fault?)).length + s.outcomes.countP isFailed ∧
    (s.acts.filterMap (·.report?)).count .up = s.outcomes.count .opened ∧
    s.acts.countP (·.isClose) =
      (s.acts.filterMap (·.report?)).count .down + if s.ended then 1 else 0 := by
  cases hended : s.ended with
  | false =>
    have h := tally_acts hended
    exact ⟨h.dials, h.downs, h.ups, h.closes⟩
  | true =>
    have h := tally_acts (s := { s with ended := false }) rfl
    have hacts : s.acts =
        Course.acts { s with ended := false } ++ [.closedLink, .entered .closed] := by
      simp [acts, hended]
    have hreports : s.acts.filterMap (·.report?) =
        (Course.acts { s with ended := false }).filterMap (·.report?) := by
      rw [hacts, List.filterMap_append]
      exact List.append_nil _
    have hfaults : s.acts.filterMap (·.fault?) =
        (Course.acts { s with ended := false }).filterMap (·.fault?) := by
      rw [hacts, List.filterMap_append]
      exact List.append_nil _
    rw [hreports, hfaults]
    refine ⟨?_, h.downs, h.ups, ?_⟩
    · rw [hacts, List.countP_append]
      exact h.dials
    · rw [hacts, List.countP_append, h.closes]
      rfl

theorem Course.last_state (s : Course) :
    (s.acts.filterMap (·.state?)).getLast? =
      some (if s.ended then .closed else if s.present.isSome then .reconnecting else .active) := by
  have hpast : (s.past.flatMap fun _ => [ConnectionState.reconnecting, .active]).getLast?.or
      (some .active) = some .active := by
    induction s.past using List.reverseRecOn with
    | nil => rfl
    | append_singleton l o ih => simp
  rw [states_acts]
  simp only [List.getLast?_append]
  cases s.ended with
  | true => rfl
  | false =>
    cases s.present with
    | some o => rfl
    | none => exact hpast

theorem Course.last_report (s : Course) :
    (s.acts.filterMap (·.report?)).getLast? = some (if s.present.isSome then .down else .up) := by
  have hpast : (s.past.flatMap fun o =>
      List.replicate (1 + o.failures.length) LinkStatus.down ++ [.up]).getLast?.or (some .up) =
        some .up := by
    induction s.past using List.reverseRecOn with
    | nil => rfl
    | append_singleton l o ih => simp [List.getLast?_append]
  rw [reports_acts]
  simp only [List.getLast?_append]
  cases s.present with
  | some o => simp [List.getLast?_replicate]
  | none => exact hpast

end

end ScrapeBridge.Connection
