import ScrapeBridge.Dispatch

namespace ScrapeBridge

namespace MessageFanIn

def tag? (m : MessageFanIn) (item : Nat × List UInt8) : Option Delivery :=
  (m.origin? item.1).map fun o => ⟨item.1, o.dataSource, item.2⟩

def answer? (m : MessageFanIn) (choice : Option Nat) : Option (Option Delivery × MessageFanIn) :=
  (m.buffers.answer? choice).map fun (item, buffers) => (item.bind m.tag?, { m with buffers })

def apply (m : MessageFanIn) (e : FanIn.Event (List UInt8)) : MessageFanIn :=
  { m with buffers := m.buffers.apply e }

def answers (m : MessageFanIn) (events : List (FanIn.Event (List UInt8))) :
    List (Option Delivery) :=
  (m.buffers.answers events).map (·.bind m.tag?)

end MessageFanIn

structure Relay where
  messages : MessageFanIn
  dispatcher : Dispatcher

namespace Relay

inductive Event where
  | push (connection : Nat) (body : List UInt8)
  | finish (connection : Nat)
  | stop
  | ask (choice : Option Nat)
  | step
  | work (now : Int) (stopFirst : Bool)
  | letIn
  | flush (now : Int) (useTimestamp : Bool)

def start (sources : List (Origin × Inlet (List UInt8))) (seconds : Nat) : Relay :=
  let messages := MessageFanIn.ofList sources
  let intake := { Intake.create seconds with worker := .running }
  ⟨messages, (messages.origins.map (·.2)).foldl .register { intake }⟩

/-- The dispatcher takes on a delivery; it stops if there are to be no more. -/
def accept (r : Relay) : Option Delivery → Dispatcher
  | none => { r.dispatcher with task := .stopped }
  | some d =>
    match r.messages.origin? d.connection with
    | some o => r.dispatcher.begin { o with dataSource := d.dataSource } d.body
    | none => r.dispatcher

def answer? (r : Relay) (choice : Option Nat) : Option (Option Delivery × MessageFanIn) :=
  if r.dispatcher.isIdle then r.messages.answer? choice else none

def withIntake (r : Relay) (intake : Intake) : Relay :=
  { r with dispatcher := { r.dispatcher with intake } }

def apply (r : Relay) : Event → Relay
  | .push connection body => { r with messages := r.messages.apply (.push connection body) }
  | .finish connection => { r with messages := r.messages.apply (.finish connection) }
  | .stop => { r with messages := r.messages.apply .stop }
  | .ask choice =>
    match r.answer? choice with
    | some (delivery, messages) => ⟨messages, r.accept delivery⟩
    | none => r
  | .step => { r with dispatcher := r.dispatcher.step?.getD r.dispatcher }
  | .work now stopFirst =>
    r.withIntake ((r.dispatcher.intake.work? now stopFirst).getD r.dispatcher.intake)
  | .letIn => r.withIntake (r.dispatcher.intake.letIn?.getD r.dispatcher.intake)
  | .flush now useTimestamp =>
    r.withIntake { r.dispatcher.intake with
      cache := (r.dispatcher.intake.cache.flush now useTimestamp).1 }

def run (r : Relay) (events : List Event) : Relay := events.foldl apply r

def answered? (r : Relay) : Event → Option (Option Delivery)
  | .ask choice => (r.answer? choice).map (·.1)
  | _ => none

def answers (r : Relay) (events : List Event) : List (Option Delivery) :=
  outputs apply answered? r events

end Relay

structure Watch where
  reports : FanIn LinkStatus
  health : Health := {}
  stopped : Bool := false

namespace Watch

def accept (w : Watch) : Option (Nat × LinkStatus) → Watch
  | none => { w with stopped := true }
  | some (_, status) => { w with health := { w.health with bus := status } }

def answer? (w : Watch) (choice : Option Nat) :
    Option (Option (Nat × LinkStatus) × FanIn LinkStatus) :=
  if w.stopped then none else w.reports.answer? choice

def apply (w : Watch) : FanIn.Event LinkStatus → Watch
  | .ask choice =>
    match w.answer? choice with
    | some (report, reports) => { w with reports }.accept report
    | none => w
  | e => { w with reports := w.reports.apply e }

def run (w : Watch) (events : List (FanIn.Event LinkStatus)) : Watch := events.foldl apply w

def answered? (w : Watch) : FanIn.Event LinkStatus → Option (Option (Nat × LinkStatus))
  | .ask choice => (w.answer? choice).map (·.1)
  | _ => none

def answers (w : Watch) (events : List (FanIn.Event LinkStatus)) :
    List (Option (Nat × LinkStatus)) :=
  outputs apply answered? w events

end Watch

end ScrapeBridge
