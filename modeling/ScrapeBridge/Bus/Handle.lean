import ScrapeBridge.Bus.Connection

namespace ScrapeBridge

inductive Outlet where
  | offered
  | taken
  | dropped
  deriving DecidableEq, Repr

structure Handle where
  connection : Connection
  bodies : Outlet := .offered
  reports : Outlet := .offered
  signal : Outlet := .offered

inductive StreamEnd where
  | full
  | empty
  | disconnected
  deriving DecidableEq, Repr

def StreamEnd.name : StreamEnd → String
  | full => "max"
  | empty => "empty"
  | disconnected => "disconnected"

inductive Signal where
  | pending
  | done
  | dropped
  deriving DecidableEq, Repr

def Signal.name : Signal → String
  | pending => "pending"
  | done => "done"
  | dropped => "dropped"

def Outlet.take : Outlet → Bool × Outlet
  | offered => (true, taken)
  | o => (false, o)

namespace Connection

def streamEnd (c : Connection) : StreamEnd := if c.hasEnded then .disconnected else .empty

/-- Takes bodies out of the buffer, at most `n`. The task goes on in between, so that a full buffer
fills again. -/
def receiveUpTo : Nat → Connection → List Body × StreamEnd × Connection
  | 0, c => ([], .full, c)
  | n + 1, c =>
    match c.receive? with
    | none => ([], c.streamEnd, c)
    | some (body, c) =>
      let (bodies, ending, c) := receiveUpTo n c.settle
      (body :: bodies, ending, c)

def signal (c : Connection) : Signal :=
  if c.isFinished then .done else if c.hasEnded then .dropped else .pending

end Connection

namespace Handle

def apply (h : Handle) (e : Connection.Event) : Handle :=
  { h with connection := (h.connection.apply e).settle }

def takeBodies (h : Handle) : Bool × Handle :=
  let (ok, bodies) := h.bodies.take
  (ok, { h with bodies })

def takeReports (h : Handle) : Bool × Handle :=
  let (ok, reports) := h.reports.take
  (ok, { h with reports })

def takeSignal (h : Handle) : Bool × Handle :=
  let (ok, signal) := h.signal.take
  (ok, { h with signal })

def readBodies? (h : Handle) (limit : Option Nat) : Option (List Body × StreamEnd × Handle) :=
  if h.bodies = .taken then
    let c := h.connection
    let (bodies, ending, c) := Connection.receiveUpTo (limit.getD c.allBodies) c
    some (bodies, ending, { h with connection := c })
  else none

def dropBodies (h : Handle) : Bool × Handle :=
  if h.bodies = .taken then (true, { h with bodies := .dropped }.apply .dropConsumer)
  else (false, h)

def readReports? (h : Handle) : Option (List LinkStatus × StreamEnd × Handle) :=
  if h.reports = .taken then
    let c := h.connection
    some (c.reports.drop c.reportsRead, c.streamEnd,
      { h with connection := { c with reportsRead := c.reports.length } })
  else none

def readSignal? (h : Handle) : Option (Signal × Handle) :=
  if h.signal = .taken then
    let s := h.connection.signal
    some (s, if s = .done then { h with signal := .dropped } else h)
  else none

end Handle

end ScrapeBridge
