import ScrapeBridge.Bus.Dialer
import ScrapeBridge.Cache.Basic
import ScrapeBridge.Proofs.Bus.Endpoint
import ScrapeBridge.Proofs.Bus.Pacing

namespace ScrapeBridge

namespace Connection

variable {c d : Connection}

theorem Move.atLimit_of_isFinished (hmove : c.Move d) (hbefore : c.isFinished = false)
    (hfinished : d.isFinished = true) : d.atLimit = true := by
  unfold isFinished at hbefore hfinished
  cases hmove with
  | drained hphase hlimit => exact hlimit
  | dial hphase =>
    generalize c.plan.headD .opened = outcome at hfinished
    cases outcome <;> simp [hbefore, dialActs] at hfinished
  | _ => simp [hbefore] at hfinished

theorem atLimit_of_isFinished_apply (hlimit : c.isFinished = true → c.atLimit = true) (e : Event)
    (hfinished : (c.apply e).isFinished = true) : (c.apply e).atLimit = true := by
  by_cases hbefore : c.isFinished = true
  · exact atLimit_apply (hlimit hbefore) e
  rw [Bool.not_eq_true] at hbefore
  have hsame : (c.apply e).acts ≠ c.acts := by
    intro hacts
    rw [isFinished, hacts, ← isFinished, hbefore] at hfinished
    cases hfinished
  cases e with
  | step stopFirst =>
    have happly : c.apply (.step stopFirst) = (c.step? stopFirst).getD c := rfl
    cases hstep : c.step? stopFirst with
    | none =>
      rw [happly, hstep] at hsame
      exact absurd rfl hsame
    | some d =>
      rw [happly, hstep, Option.getD_some] at hfinished ⊢
      exact (move_of_step? hstep).atLimit_of_isFinished hbefore hfinished
  | _ => exact absurd (apply_around rfl).1 hsame

theorem atLimit_of_isFinished_run {settings : ConnectionSettings} {endpoint : String}
    {feed : List Arrival} {plan : List DialOutcome}
    (hstart : start settings endpoint feed plan = .ok c) (events : List Event) :
    (c.run events).isFinished = true → (c.run events).atLimit = true := by
  induction events using List.reverseRecOn with
  | nil =>
    intro hfinished
    unfold start at hstart
    split at hstart
    · cases hstart
    · split at hstart <;> cases hstart
      cases hfinished
  | append_singleton events e ih =>
    rw [run_concat]
    exact atLimit_of_isFinished_apply ih e

theorem received_pos_of_done {settings : ConnectionSettings} {endpoint : String}
    {feed : List Arrival} {plan : List DialOutcome} (hcount : ∀ n ∈ settings.messageCount, 1 ≤ n)
    (hstart : start settings endpoint feed plan = .ok c) (events : List Event)
    (hdone : (c.run events).signal = .done) : 1 ≤ (c.run events).received := by
  have hlimit := atLimit_of_isFinished_run hstart events (signal_eq_done_iff.mp hdone)
  rw [atLimit, settings_run, settings_start hstart, Option.any_eq_true] at hlimit
  obtain ⟨n, hn, hreceived⟩ := hlimit
  exact Nat.le_trans (hcount n hn) (of_decide_eq_true hreceived)

end Connection

namespace Config

inductive Requirement where
  | connections
  | url (index : Nat)
  | name
  | buffer
  | backoff
  | messages
  | timeToLive
  | address

/-- The requirements in the order in which they are checked. -/
def requirements (c : Config) : List Requirement :=
  .connections :: (List.range c.connections.length).map .url ++
    [.name, .buffer, .backoff, .messages, .timeToLive, .address]

/-- The part of the bridge that a requirement is for gets what it needs. -/
def Meets (c : Config) : Requirement → Prop
  | .connections => c.connections ≠ []
  | .url index => ∀ s ∈ c.connections[index]?,
    ∃ d, Dialer.create s.url c.uniqueName c.prefetch = .ok d
  | .name => c.uniqueName ≠ ""
  | .buffer => ∀ index, ∀ s ∈ c.connection? index, 1 ≤ s.bufferSize
  | .backoff => ∀ index, ∀ s ∈ c.connection? index, 0 < s.reconnectBackoff.nanoseconds
  | .messages => ∀ index, ∀ s ∈ c.connection? index, ∀ n ∈ s.messageCount, 1 ≤ n
  | .timeToLive => 1 ≤ (Cache.create c.timeToLive.seconds).timeToLive
  | .address => c.address ≠ ""

/-- What is reported of a requirement that is not met. -/
inductive Reports (c : Config) : Requirement → ConfigError → Prop
  | connections : Reports c .connections .noConnections
  | noUrl {index : Nat} {s : SourceConfig} (hs : c.connections[index]? = some s)
    (h : Dialer.create s.url c.uniqueName c.prefetch = .error .empty) :
    Reports c (.url index) (.noUrl index)
  | badUrl {index : Nat} {s : SourceConfig} {e : EndpointError}
    (hs : c.connections[index]? = some s)
    (h : Dialer.create s.url c.uniqueName c.prefetch = .error e) (he : e ≠ .empty) :
    Reports c (.url index) (.badUrl index e)
  | name : Reports c .name .noName
  | buffer : Reports c .buffer .noBuffer
  | backoff : Reports c .backoff .noBackoff
  | messages : Reports c .messages .zeroMessages
  | timeToLive : Reports c .timeToLive .shortTimeToLive
  | address : Reports c .address .noAddress

/-- The outcome of checking requirements in order. -/
inductive Checked (c : Config) (l : List Requirement) : Except ConfigError Unit → Prop
  | passed (hmet : ∀ r ∈ l, c.Meets r) : Checked c l (.ok ())
  | failed {met rest : List Requirement} {r : Requirement} {e : ConfigError}
    (hl : l = met ++ r :: rest) (hmet : ∀ q ∈ met, c.Meets q) (hr : ¬ c.Meets r)
    (hreport : c.Reports r e) : Checked c l (.error e)

variable {c : Config} {l l' : List Requirement} {x y : Except ConfigError Unit}

theorem Checked.bind (hx : Checked c l x) (hy : x = .ok () → Checked c l' y) :
    Checked c (l ++ l') (x >>= fun _ => y) := by
  cases hx with
  | passed hmet =>
    change Checked c (l ++ l') y
    cases hy rfl with
    | passed hmet' =>
      refine .passed fun r hr => ?_
      exact (List.mem_append.mp hr).elim (hmet r) (hmet' r)
    | @failed met rest r e hl hmet' hr hreport =>
      have hparts : l ++ l' = (l ++ met) ++ r :: rest := by rw [hl, List.append_assoc]
      refine .failed hparts (fun q hq => ?_) hr hreport
      exact (List.mem_append.mp hq).elim (hmet q) (hmet' q)
  | @failed met rest r e hl hmet hr hreport =>
    have hparts : l ++ l' = met ++ r :: (rest ++ l') := by
      rw [hl, List.append_assoc, List.cons_append]
    exact .failed hparts hmet hr hreport

theorem Checked.unmet {r : Requirement} {e : ConfigError} (hr : ¬ c.Meets r)
    (hreport : c.Reports r e) : Checked c [r] (.error e) :=
  .failed (List.nil_append [r]).symm (by simp) hr hreport

theorem checked_check {p : Bool} {r : Requirement} {e : ConfigError} (hp : p = true ↔ c.Meets r)
    (hreport : c.Reports r e) : Checked c [r] (check p e) := by
  rw [check]
  split_ifs with h
  · refine .passed fun q hq => ?_
    rw [List.mem_singleton.mp hq]
    exact hp.mp h
  · exact .unmet (mt hp.mpr h) hreport

theorem create_eq_ok_iff {url uniqueName : String} {prefetch : Nat} :
    (∃ d, Dialer.create url uniqueName prefetch = .ok d) ↔ ∃ e, Endpoint.parse url = .ok e := by
  rw [Dialer.create]
  cases Endpoint.parse url with
  | error e => exact iff_of_false (by rintro ⟨_, ⟨⟩⟩) (by rintro ⟨_, ⟨⟩⟩)
  | ok e => exact iff_of_true ⟨_, rfl⟩ ⟨_, rfl⟩

theorem create_eq_error (uniqueName : String) (prefetch : Nat) {url : String} {e : EndpointError}
    (h : Endpoint.parse url = .error e) : Dialer.create url uniqueName prefetch = .error e := by
  rw [Dialer.create, h]
  rfl

theorem checked_checkUrl {index : Nat} {s : SourceConfig} (hs : c.connections[index]? = some s) :
    Checked c [.url index] (checkUrl index s.url) := by
  rw [checkUrl]
  cases hparse : Endpoint.parse s.url with
  | ok e =>
    refine .passed fun q hq => ?_
    rw [List.mem_singleton.mp hq]
    intro s' hs'
    cases hs.symm.trans hs'
    exact create_eq_ok_iff.mpr ⟨e, hparse⟩
  | error e =>
    have hcreate := create_eq_error c.uniqueName c.prefetch hparse
    have hunmet : ¬ c.Meets (.url index) := by
      intro hmet
      obtain ⟨d, hd⟩ := hmet s hs
      cases hcreate.symm.trans hd
    by_cases he : e = .empty
    · subst he
      exact .unmet hunmet (.noUrl hs hcreate)
    · have hbad : Checked c [.url index] (.error (.badUrl index e)) :=
        .unmet hunmet (.badUrl hs hcreate he)
      cases e with
      | empty => exact absurd rfl he
      | _ => exact hbad

theorem checked_checkUrls {rest : List SourceConfig} {index : Nat}
    (hrest : c.connections.drop index = rest) :
    Checked c ((List.range' index rest.length).map .url) (checkUrls index rest) := by
  induction rest generalizing index with
  | nil => exact .passed (by simp)
  | cons s rest ih =>
    have hs : c.connections[index]? = some s := by
      rw [← List.head?_drop, hrest, List.head?_cons]
    have hlater : c.connections.drop (index + 1) = rest := by
      rw [← List.tail_drop, hrest, List.tail_cons]
    exact (checked_checkUrl hs).bind fun _ => ih hlater

theorem forall_connection?_iff (hne : c.connections ≠ []) {P : Nat → Duration → Option Nat → Prop} :
    (∀ index, ∀ s ∈ c.connection? index, P s.bufferSize s.reconnectBackoff s.messageCount) ↔
      P c.bufferSize c.reconnectBackoff c.messageCount := by
  constructor
  · intro h
    obtain ⟨s, rest, hs⟩ := List.exists_cons_of_ne_nil hne
    have hfirst : c.connections[0]? = some s := by rw [hs, List.getElem?_cons_zero]
    exact h 0 _ (by rw [connection?, hfirst]; rfl)
  · intro h index s hs
    obtain ⟨source, -, rfl⟩ := Option.map_eq_some_iff.mp hs
    exact h

theorem ne_nil_of_check (h : check (!c.connections.isEmpty) .noConnections = .ok ()) :
    c.connections ≠ [] := by
  intro hnil
  rw [hnil] at h
  cases h

theorem checked_validate (c : Config) : Checked c c.requirements c.validate := by
  have hurls : Checked c ((List.range' 0 c.connections.length).map .url)
      (checkUrls 0 c.connections) := checked_checkUrls rfl
  rw [← List.range_eq_range'] at hurls
  -- The limits are read off connections, so that they need there to be some.
  refine (checked_check ?_ .connections).bind fun hsome => hurls.bind fun _ =>
    (checked_check ?_ .name).bind fun _ => (checked_check ?_ .buffer).bind fun _ =>
    (checked_check ?_ .backoff).bind fun _ => (checked_check ?_ .messages).bind fun _ =>
    (checked_check ?_ .timeToLive).bind fun _ => checked_check ?_ .address
  · simp [Meets]
  · simp [Meets]
  · rw [Meets, forall_connection?_iff (ne_nil_of_check hsome) (P := fun n _ _ => 1 ≤ n)]
    simp [Nat.one_le_iff_ne_zero]
  · rw [Meets, forall_connection?_iff (ne_nil_of_check hsome) (P := fun _ d _ => 0 < d.nanoseconds)]
    simp [Duration.isZero, Nat.pos_iff_ne_zero]
  · rw [Meets, forall_connection?_iff (ne_nil_of_check hsome)
      (P := fun _ _ count => ∀ n ∈ count, 1 ≤ n)]
    cases c.messageCount <;> simp [Nat.one_le_iff_ne_zero]
  · rw [Meets, Cache.create, decide_eq_true_eq]
    dsimp only
    omega
  · simp [Meets]

theorem validate_eq_ok_iff : c.validate = .ok () ↔ ∀ r ∈ c.requirements, c.Meets r := by
  have h := c.checked_validate
  generalize c.validate = x at h
  cases h with
  | passed hmet => exact iff_of_true rfl hmet
  | failed hl hmet hr _ => exact iff_of_false (by rintro ⟨⟩) fun hall => hr (hall _ (by simp [hl]))

theorem first_of_validate {e : ConfigError} (h : c.validate = .error e) :
    ∃ met r rest, c.requirements = met ++ r :: rest ∧ (∀ q ∈ met, c.Meets q) ∧ ¬ c.Meets r ∧
      c.Reports r e := by
  have hchecked := c.checked_validate
  rw [h] at hchecked
  cases hchecked with
  | failed hl hmet hr hreport => exact ⟨_, _, _, hl, hmet, hr, hreport⟩

/-- What the start of a connection needs of its configuration. -/
structure Prepares (c : Config) (index : Nat) (s : SourceConfig) (settings : ConnectionSettings) :
    Prop where
  settings_eq : c.connection? index = some settings
  index_eq : settings.index = index
  dataSource_eq : settings.dataSource = s.dataSource
  buffer : 1 ≤ settings.bufferSize
  backoff : 0 < settings.reconnectBackoff.nanoseconds
  messages : ∀ n ∈ settings.messageCount, 1 ≤ n
  dialer : ∃ d, Dialer.create s.url c.uniqueName c.prefetch = .ok d

theorem exists_prepares (h : c.validate = .ok ()) {index : Nat} {s : SourceConfig}
    (hs : c.connections[index]? = some s) : ∃ settings, c.Prepares index s settings := by
  rw [validate_eq_ok_iff] at h
  have hsettings : c.connection? index = some _ := congrArg (Option.map _) hs
  have hindex : index < c.connections.length := (List.getElem?_eq_some_iff.mp hs).1
  exact ⟨_, hsettings, rfl, rfl, h .buffer (by simp [requirements]) index _ hsettings,
    h .backoff (by simp [requirements]) index _ hsettings,
    h .messages (by simp [requirements]) index _ hsettings,
    h (.url index) (by simp [requirements, hindex]) s hs⟩

/-- A configuration is valid exactly if all requirements are met, and otherwise the first that is
not is reported. A valid one has what every connection and the cache need to start, and no
connection that is started from it is through before its first message. -/
theorem validate_prepares (c : Config) :
    (c.validate = .ok () ↔ ∀ r ∈ c.requirements, c.Meets r) ∧
    (c.validate = .ok () →
      (∀ index s, c.connections[index]? = some s → ∃ settings, c.Prepares index s settings ∧
        ∀ endpoint feed plan k events, Connection.start settings endpoint feed plan = .ok k →
          (k.run events).signal = .done → 1 ≤ (k.run events).received) ∧
      1 ≤ (Cache.create c.timeToLive.seconds).timeToLive) ∧
    (∀ index, c.connections.length ≤ index → c.connection? index = none) ∧
    ∀ e, c.validate = .error e → ∃ met r rest, c.requirements = met ++ r :: rest ∧
      (∀ q ∈ met, c.Meets q) ∧ ¬ c.Meets r ∧ c.Reports r e := by
  refine ⟨validate_eq_ok_iff, fun h => ⟨fun index s hs => ?_, ?_⟩, fun index hindex => ?_,
    fun e => first_of_validate⟩
  · obtain ⟨settings, hprepares⟩ := exists_prepares h hs
    refine ⟨settings, hprepares, fun endpoint feed plan k events hstart hdone => ?_⟩
    exact Connection.received_pos_of_done hprepares.messages hstart events hdone
  · exact validate_eq_ok_iff.mp h .timeToLive (by simp [requirements])
  · rw [connection?, List.getElem?_eq_none hindex]
    rfl

/-- The second connection has no address, and nothing is said of the name. -/
example :
    validate { uniqueName := "",
               connections := [⟨"amqp://bus/a", .collectd⟩, ⟨"bus", .ceilometer⟩] } =
      .error (.badUrl 1 (.noAddress "bus")) := by
  decide

end Config

end ScrapeBridge
