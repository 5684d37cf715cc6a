import Mathlib.Data.List.Basic
import ScrapeBridge.Bus.Link

namespace ScrapeBridge

/-- The sections that carry bytes, and which. -/
inductive Section.Carries : Section → Body → Prop
  | binary (bytes : Body) : Carries (.value (.binary bytes)) bytes
  | string (s : String) : Carries (.value (.string s)) s.toUTF8.toList
  | data (parts : List Body) : Carries (.data parts) parts.flatten

theorem Section.bytes?_eq_some_iff {s : Section} {bytes : Body} :
    s.bytes? = some bytes ↔ s.Carries bytes := by
  constructor
  · intro h
    unfold Section.bytes? at h
    split at h <;> cases h
    · exact .binary _
    · exact .string _
    · exact .data _
  · intro h
    cases h <;> rfl

namespace Link

def accepted (acts : List LinkAct) : List Nat :=
  acts.filterMap fun | .accepted number => some number | _ => none

def results (acts : List LinkAct) : List (Except LinkError Body) :=
  acts.filterMap fun | .returned r => some r | _ => none

def bodies (deliveries : List Delivery) : List Body := deliveries.filterMap (·.body.bytes?)

def actsOn (d : Delivery) : List LinkAct :=
  .accepted d.number :: d.body.bytes?.toList.map fun bytes => .returned (.ok bytes)

def transcript (deliveries : List Delivery) : List LinkAct := deliveries.flatMap actsOn

def actsClosed : Call → List LinkAct
  | .receive => [.returned (.error (.fault "link is not attached"))]
  | .close => []

def past (l : Link) (acts : List LinkAct) (rest : List Delivery) : Link :=
  { l.note acts with incoming := rest }

variable {l : Link} {d : Delivery} {front back rest : List Delivery}

theorem past_past (l : Link) (acts acts' : List LinkAct) (rest rest' : List Delivery) :
    (l.past acts rest).past acts' rest' = l.past (acts ++ acts') rest' := by
  simp [past, note]

theorem bodies_cons_none (h : d.body.bytes? = none) : bodies (d :: rest) = bodies rest :=
  List.filterMap_cons_none h

theorem bodies_cons_some {bytes : Body} (h : d.body.bytes? = some bytes) :
    bodies (d :: rest) = bytes :: bodies rest :=
  List.filterMap_cons_some h

theorem accepted_transcript (deliveries : List Delivery) :
    accepted (transcript deliveries) = deliveries.map (·.number) := by
  induction deliveries with
  | nil => rfl
  | cons d rest ih =>
    have hd : accepted (actsOn d) = [d.number] := by
      cases hbody : d.body.bytes? <;> rw [actsOn, hbody] <;> rfl
    rw [transcript, List.flatMap_cons, accepted, List.filterMap_append]
    exact congrArg₂ (· ++ ·) hd ih

theorem results_transcript (deliveries : List Delivery) :
    results (transcript deliveries) = (bodies deliveries).map .ok := by
  induction deliveries with
  | nil => rfl
  | cons d rest ih =>
    have hd : results (actsOn d) ++ (bodies rest).map .ok = (bodies (d :: rest)).map .ok := by
      cases hbody : d.body.bytes? with
      | none => rw [bodies_cons_none hbody, actsOn, hbody]; rfl
      | some bytes => rw [bodies_cons_some hbody, actsOn, hbody]; rfl
    rw [← hd, ← ih, transcript, List.flatMap_cons, results, List.filterMap_append]
    rfl

theorem apply_receive_skip (hattached : l.attached = true) (hincoming : l.incoming = d :: rest)
    (haccept : l.refusal d = none) (hbody : d.body.bytes? = none) :
    l.apply .receive = (l.past (actsOn d) rest).apply .receive := by
  have hreceive : l.receive = (l.past (actsOn d) rest).receive := by
    have hpast : (l.past (actsOn d) rest).attached = true := hattached
    rw [receive, if_pos hattached, hincoming, receiveFrom, receive, if_pos hpast]
    dsimp only
    rw [haccept, hbody, actsOn, hbody]
    rfl
  rw [apply, hreceive]
  rfl

theorem apply_receive_body (hattached : l.attached = true) (hincoming : l.incoming = d :: rest)
    (haccept : l.refusal d = none) {bytes : Body} (hbody : d.body.bytes? = some bytes) :
    l.apply .receive = l.past (actsOn d) rest := by
  rw [apply, receive, if_pos hattached, hincoming, receiveFrom]
  dsimp only
  rw [haccept, hbody, actsOn, hbody]
  simp [past, note]

theorem apply_receive_end (hattached : l.attached = true) (hincoming : l.incoming = []) :
    l.apply .receive = l.note [.returned (.error (.ofFailure l.ending))] := by
  rw [apply, receive, if_pos hattached, hincoming, receiveFrom]

/-- As many calls as there are bodies, and one more, lead past all deliveries that come first. -/
theorem run_receives (hattached : l.attached = true) (hincoming : l.incoming = front ++ back)
    (haccept : ∀ d ∈ front, l.refusal d = none) :
    l.run (List.replicate ((bodies front).length + 1) .receive) =
      (l.past (transcript front) back).apply .receive := by
  induction front generalizing l with
  | nil =>
    have hsame : l.past (transcript []) back = l := by
      rw [List.nil_append] at hincoming
      simp [past, note, transcript, ← hincoming]
    rw [hsame]
    rfl
  | cons d front ih =>
    have hd : l.refusal d = none := haccept d (.head _)
    have hlater : (l.past (actsOn d) (front ++ back)).run
        (List.replicate ((bodies front).length + 1) .receive) =
          (l.past (transcript (d :: front)) back).apply .receive := by
      rw [ih (l := l.past (actsOn d) (front ++ back)) hattached rfl fun d' hd' =>
        haccept d' (.tail _ hd'), past_past]
      rfl
    cases hbody : d.body.bytes? with
    | none =>
      rw [bodies_cons_none hbody, List.replicate_succ, run, List.foldl_cons,
        apply_receive_skip hattached hincoming hd hbody]
      exact hlater
    | some bytes =>
      rw [bodies_cons_some hbody, List.length_cons, List.replicate_succ, run, List.foldl_cons,
        apply_receive_body hattached hincoming hd hbody]
      exact hlater

theorem run_receives_body (hattached : l.attached = true)
    (hincoming : l.incoming = front ++ d :: back) (haccept : ∀ d ∈ front, l.refusal d = none)
    (hd : l.refusal d = none) {bytes : Body} (hbody : d.body.bytes? = some bytes) :
    l.run (List.replicate (bodies (front ++ [d])).length .receive) =
      l.past (transcript (front ++ [d])) back := by
  have hlength : (bodies (front ++ [d])).length = (bodies front).length + 1 := by
    rw [bodies, List.filterMap_append, List.length_append]
    exact congrArg _ (congrArg _ (bodies_cons_some hbody))
  have hpast : (l.past (transcript front) (d :: back)).past (actsOn d) back =
      l.past (transcript (front ++ [d])) back := by
    rw [past_past, transcript, transcript, List.flatMap_append, List.flatMap_singleton]
  rw [hlength, run_receives hattached hincoming haccept, ← hpast]
  exact apply_receive_body hattached rfl hd hbody

theorem run_receives_end (hattached : l.attached = true)
    (haccept : ∀ d ∈ l.incoming, l.refusal d = none) :
    l.run (List.replicate ((bodies l.incoming).length + 1) .receive) =
      (l.past (transcript l.incoming) []).note [.returned (.error (.ofFailure l.ending))] := by
  have hall : l.incoming = l.incoming ++ [] := (List.append_nil _).symm
  rw [run_receives hattached hall haccept]
  exact apply_receive_end hattached rfl

theorem attached_close (l : Link) : l.close.attached = false := by
  cases hattached : l.attached <;> simp [close, hattached]

theorem apply_closed (hclosed : l.attached = false) (c : Call) :
    l.apply c = l.note (actsClosed c) := by
  cases c with
  | receive => simp [apply, receive, hclosed, actsClosed]
  | close =>
    have hsame : l.close = l := if_neg (by simp [hclosed])
    rw [apply, hsame]
    simp [actsClosed, note]

theorem run_closed (hclosed : l.attached = false) (calls : List Call) :
    l.run calls = l.note (calls.flatMap actsClosed) := by
  induction calls generalizing l with
  | nil => simp [run, note]
  | cons c calls ih =>
    have hnext : (l.note (actsClosed c)).attached = false := hclosed
    rw [run, List.foldl_cons, apply_closed hclosed, ← run, ih hnext, List.flatMap_cons]
    simp [note]

theorem run_append (l : Link) (calls calls' : List Call) :
    l.run (calls ++ calls') = (l.run calls).run calls' :=
  List.foldl_append

theorem run_after_close (l : Link) (earlier later : List Call) :
    l.run (earlier ++ .close :: later) = (l.run earlier).close.note (later.flatMap actsClosed) := by
  rw [run_append]
  exact run_closed (attached_close _) later

theorem ofFailure_eq_closed_iff {failure : ReceiveFailure} :
    LinkError.ofFailure failure = .closed ↔ failure = .remoteClosed := by
  cases failure <;> simp [LinkError.ofFailure]

theorem ofFailure_eq_fault_iff {failure : ReceiveFailure} {text : String} :
    LinkError.ofFailure failure = .fault text ↔ failure = .other text := by
  cases failure <;> simp [LinkError.ofFailure]

/-- Calls of an attached link return, in order, what its deliveries carry, then the failure. What a
link has done shows every delivery accepted before anything is returned of it; as no call goes past
the delivery that it returns, none is accepted early. -/
theorem run_yields_bodies (l : Link) (hattached : l.attached = true)
    (haccept : ∀ d ∈ l.incoming, l.refusal d = none) :
    (∀ (s : Section) (bytes : Body), s.bytes? = some bytes ↔ s.Carries bytes) ∧
    (∀ (front back : List Delivery) (d : Delivery) (bytes : Body),
      l.incoming = front ++ d :: back → d.body.Carries bytes →
        let after := l.run (List.replicate (bodies (front ++ [d])).length .receive)
        after.history = l.history ++ transcript (front ++ [d]) ∧ after.incoming = back) ∧
    (l.run (List.replicate ((bodies l.incoming).length + 1) .receive)).history =
      l.history ++ transcript l.incoming ++ [.returned (.error (.ofFailure l.ending))] ∧
    accepted (transcript l.incoming) = l.incoming.map (·.number) ∧
    results (transcript l.incoming) = (bodies l.incoming).map .ok ∧
    (LinkError.ofFailure l.ending = .closed ↔ l.ending = .remoteClosed) ∧
    (∀ text, LinkError.ofFailure l.ending = .fault text ↔ l.ending = .other text) ∧
    ∀ earlier later : List Call, (l.run (earlier ++ .close :: later)).history =
      (l.run (earlier ++ [.close])).history ++ later.flatMap actsClosed := by
  refine ⟨fun _ _ => Section.bytes?_eq_some_iff, ?front, ?all, accepted_transcript _,
    results_transcript _, ofFailure_eq_closed_iff, fun _ => ofFailure_eq_fault_iff, ?closed⟩
  case front =>
    intro front back d bytes hincoming hbody
    have haccept' : ∀ d' ∈ front, l.refusal d' = none := fun d' hd' =>
      haccept d' (hincoming ▸ List.mem_append_left _ hd')
    have hd : l.refusal d = none := haccept d (hincoming ▸ List.mem_append_right _ (.head _))
    rw [run_receives_body hattached hincoming haccept' hd (Section.bytes?_eq_some_iff.2 hbody)]
    exact ⟨rfl, rfl⟩
  case all =>
    rw [run_receives_end hattached haccept]
    rfl
  case closed =>
    intro earlier later
    rw [run_after_close, run_after_close]
    simp [note]

/-- What stands before a body and before the end is skipped, and accepted all the same. -/
theorem run_yields_bodies_of_skipped :
    let l : Link :=
      { incoming := [⟨1, .value (.symbol "a")⟩, ⟨2, .data [[1], [2, 3]]⟩, ⟨3, .absent⟩],
        ending := .remoteClosed }
    l.attached = true ∧ (∀ d ∈ l.incoming, l.refusal d = none) ∧
    (l.run [.receive, .receive]).history =
      [.accepted 1, .accepted 2, .returned (.ok [1, 2, 3]), .accepted 3,
        .returned (.error .closed)] :=
  ⟨rfl, fun _ _ => rfl, (run_yields_bodies _ rfl fun _ _ => rfl).2.2.1⟩

end Link

end ScrapeBridge
