import ScrapeBridge.Bus.Connection
import ScrapeBridge.Bus.Dialer
import ScrapeBridge.Dispatch
import ScrapeBridge.Exposition.Listen
import ScrapeBridge.Exposition.Text
import ScrapeBridge.Scrape

namespace ScrapeBridge

inductive BridgeError where
  | listening (address : String)
  | configuring (index : Nat) (reason : String)
  | connecting (e : StartError)
  deriving DecidableEq, Repr

def BridgeError.message : BridgeError → String
  | listening address => "starting metrics exporter: " ++ Listen.refusal address
  | configuring index reason => "configuring connection " ++ toString index ++ ": " ++ reason
  | connecting e => e.message

/-- A source of messages as it can be dialed: what its endpoint is called, what the links to it are
going to yield, and how dials are going to end. -/
structure Route where
  endpoint : String
  feed : List Arrival := []
  plan : List DialOutcome := []

/-- A machine whose parts take turns in any order. To stop, connections end first, then the
dispatcher once it has taken all that is buffered, and last the worker of the cache. -/
structure Bridge where
  config : Config
  listening : Option (String × Nat) := none
  connections : List Connection := []
  dispatcher : Dispatcher
  /-- Every body that the dispatcher has been handed, with the number of its connection. -/
  handed : List (Nat × Origin × Body) := []
  health : Health := {}
  stopping : Bool := false

namespace Bridge

def create (config : Config) : Bridge :=
  { config, dispatcher := { intake := .create config.timeToLive.seconds } }

def startConnections (route : Nat → SourceConfig → Except String Route) (index : Nat) (b : Bridge) :
    List SourceConfig → Bridge × Option BridgeError
  | [] => (b, none)
  | s :: rest =>
    match b.config.connection? index, route index s with
    | none, _ => (b, none)
    | _, .error reason => (b, some (.configuring index reason))
    | some settings, .ok r =>
      match Connection.start settings r.endpoint r.feed r.plan with
      | .error e => (b, some (.connecting e))
      | .ok c =>
        startConnections route (index + 1) { b with connections := b.connections ++ [c] } rest

def origin (c : Connection) : Origin := ⟨c.endpoint, c.settings.dataSource⟩

/-- Starts everything: the listener, the worker of the cache, the connections, the dispatcher. -/
def start (config : Config) (route : Nat → SourceConfig → Except String Route) :
    Bridge × Option BridgeError :=
  let b := create config
  match Listen.bind? config.address with
  | none => (b, some (.listening config.address))
  | some listening =>
    let intake := b.dispatcher.intake.start.getD b.dispatcher.intake
    let b := { b with listening, dispatcher := { b.dispatcher with intake } }
    match startConnections route 0 b config.connections with
    | (b, some e) => (b, some e)
    | (b, none) =>
      ({ b with dispatcher := (b.connections.map origin).foldl .register b.dispatcher }, none)

inductive Event where
  | feed (index : Nat) (arrivals : List Arrival)
  | plan (index : Nat) (outcomes : List DialOutcome)
  | advance (nanoseconds : Nat)
  | close (index : Nat)
  | step (index : Nat) (stopFirst : Bool)
  | deliver (index : Nat)
  | dispatch
  | work (now : Int) (stopFirst : Bool)
  | letIn
  | report (index : Nat)
  | scrape (nowMs : Int)
  | stop
  | passStop

def allEnded (b : Bridge) : Bool := b.connections.all (·.hasEnded)

def allTaken (b : Bridge) : Bool := b.connections.all (·.buffer.isEmpty)

def deliver? (b : Bridge) (index : Nat) : Option Bridge := do
  if !b.dispatcher.isIdle then failure
  let c ← b.connections[index]?
  let (body, taken) ← c.receive?
  return { b with
    connections := b.connections.set index taken
    dispatcher := b.dispatcher.begin (origin c) body
    handed := b.handed ++ [(index, origin c, body)] }

def report? (b : Bridge) (index : Nat) : Option Bridge := do
  let c ← b.connections[index]?
  let s ← c.reports[c.reportsRead]?
  return { b with
    connections := b.connections.set index { c with reportsRead := c.reportsRead + 1 }
    health := { b.health with bus := s } }

def passStop? (b : Bridge) : Option Bridge :=
  if !b.allEnded then none
  else if b.dispatcher.isIdle ∧ b.allTaken then
    some { b with dispatcher := { b.dispatcher with task := .stopped } }
  else if b.stopping ∧ b.dispatcher.isStopped then
    some { b with dispatcher := { b.dispatcher with intake := b.dispatcher.intake.stop } }
  else none

def addCounts (m : SelfMetrics) (c : Connection) : SelfMetrics :=
  let m := m.connect c.endpoint
  { m with
    received := m.received.tick c.endpoint c.received
    reconnects := m.reconnects.tick c.endpoint c.reconnects }

def metrics (b : Bridge) : SelfMetrics := b.connections.foldl addCounts b.dispatcher.metrics

def scrape (b : Bridge) (nowMs : Int) : String × Bridge :=
  let (cache, families) :=
    Scrape.collect b.dispatcher.intake.cache b.health b.config.useTimestamp nowMs
  (Exposition.text (Family.gather (b.metrics.families ++ families)),
    { b with dispatcher := { b.dispatcher with intake := { b.dispatcher.intake with cache } } })

def tell (b : Bridge) (index : Nat) (e : Connection.Event) : Bridge :=
  { b with connections := b.connections.modify index (·.apply e) }

def tellAll (b : Bridge) (e : Connection.Event) : Bridge :=
  { b with connections := b.connections.map (·.apply e) }

def apply (b : Bridge) : Event → Bridge
  | .feed index arrivals => b.tell index (.feed arrivals)
  | .plan index outcomes => b.tell index (.plan outcomes)
  | .advance nanoseconds => b.tellAll (.advance nanoseconds)
  | .close index => b.tell index .stop
  | .step index stopFirst => b.tell index (.step stopFirst)
  | .deliver index => (b.deliver? index).getD b
  | .dispatch => (b.dispatcher.step?.map fun dispatcher => { b with dispatcher }).getD b
  | .work now stopFirst =>
    ((b.dispatcher.intake.work? now stopFirst).map fun intake =>
      { b with dispatcher := { b.dispatcher with intake } }).getD b
  | .letIn =>
    (b.dispatcher.intake.letIn?.map fun intake =>
      { b with dispatcher := { b.dispatcher with intake } }).getD b
  | .report index => (b.report? index).getD b
  | .scrape nowMs => (b.scrape nowMs).2
  | .stop => { b with stopping := true }.tellAll .stop
  | .passStop => b.passStop?.getD b

def run (b : Bridge) (events : List Event) : Bridge := events.foldl apply b

def isStopped (b : Bridge) : Bool := b.stopping && b.dispatcher.intake.worker = .stopped

def settleConnections (b : Bridge) : Bridge :=
  { b with connections := b.connections.map (·.settle) }

def deliverOne? (b : Bridge) (now : Int) : Option Bridge := do
  let index ← b.connections.findIdx? (!·.buffer.isEmpty)
  let b ← b.deliver? index
  return { b with
    connections := b.connections.modify index (·.settle)
    dispatcher := b.dispatcher.settle now }

def deliverWithin (fuel : Nat) (b : Bridge) (now : Int) : Bridge :=
  match fuel with
  | 0 => b
  | fuel + 1 =>
    match b.deliverOne? now with
    | none => b
    | some b => deliverWithin fuel b now

def messages (b : Bridge) : Nat := b.connections.foldr (·.allBodies + ·) 0

def follow (b : Bridge) (index : Nat) : Bridge :=
  match b.connections[index]? with
  | none => b
  | some c => (c.reports.length - c.reportsRead).repeat (fun b => b.apply (.report index)) b

def round (b : Bridge) (now : Int) : Bridge :=
  let b := b.settleConnections
  let b := b.deliverWithin b.messages now
  (List.range b.connections.length).foldl follow b

def patience? (b : Bridge) : Option Nat :=
  b.connections.findSome? fun c =>
    match c.phase with
    | .backingOff deadline => some (deadline - c.now)
    | _ => none

/-- Rounds, with time passing between them while a connection backs off. `fuel` bounds their
number. -/
def settleWithin (fuel : Nat) (b : Bridge) (now : Int) : Bridge :=
  let b := b.round now
  match fuel, b.patience? with
  | fuel + 1, some wait =>
    settleWithin fuel (b.tellAll (.advance wait)) now
  | _, _ => b

def settle (b : Bridge) (now : Int) : Bridge :=
  b.settleWithin (b.connections.foldr (·.work + ·) 1) now

def shutDown (b : Bridge) (now : Int) : Bridge :=
  let b := ((b.apply .stop).round now).run [.passStop, .passStop]
  { b with dispatcher := b.dispatcher.settle now }

def isDrained (b : Bridge) : Bool :=
  b.config.messageCount.isSome && !b.connections.isEmpty && b.allEnded

end Bridge

end ScrapeBridge
