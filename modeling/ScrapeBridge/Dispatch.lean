import ScrapeBridge.Cache.Intake
import ScrapeBridge.FanIn
import ScrapeBridge.Health
import ScrapeBridge.Message
import ScrapeBridge.SelfMetrics

namespace ScrapeBridge

structure Origin where
  endpoint : String
  dataSource : DataSource
  deriving DecidableEq

structure Delivery where
  connection : Nat
  dataSource : DataSource
  body : List UInt8

inductive Task where
  | idle
  | putting (endpoint : String) (samples : List Sample)
  | blocked (ticket : Nat) (endpoint : String) (samples : List Sample)
  | stopped

structure Dispatcher where
  task : Task := .idle
  intake : Intake
  metrics : SelfMetrics := {}

namespace Dispatcher

def register (d : Dispatcher) (o : Origin) : Dispatcher :=
  { d with metrics := { d.metrics with
    processed := d.metrics.processed.touch o.endpoint
    dropped := d.metrics.dropped.touch o.endpoint } }

def begin (d : Dispatcher) (o : Origin) (body : List UInt8) : Dispatcher :=
  match decodeMessage o.dataSource body with
  | .ok samples => { d with task := .putting o.endpoint samples }
  | .error _ => { d with
      metrics := { d.metrics with dropped := d.metrics.dropped.add o.endpoint 1 } }

def step? (d : Dispatcher) : Option Dispatcher :=
  match d.task with
  | .putting endpoint (s :: samples) => some { d with
      task := .blocked d.intake.tickets endpoint samples
      metrics := d.metrics.observeInterval s.interval
      intake := d.intake.put s }
  | .putting endpoint [] => some { d with
      task := .idle
      metrics := { d.metrics with processed := d.metrics.processed.add endpoint 1 } }
  | .blocked ticket endpoint samples =>
    match d.intake.answer? ticket with
    | some true => some { d with task := .putting endpoint samples }
    | some false => some { d with task := .stopped }
    | none => none
  | .idle => none
  | .stopped => none

def advance? (d : Dispatcher) (now : Int) : Option Dispatcher :=
  d.step?.or ((d.intake.step? now).map fun intake => { d with intake })

def load (d : Dispatcher) : Nat :=
  d.intake.load + 4 *
    match d.task with
    | .putting _ samples => 2 * samples.length + 1
    | .blocked _ _ samples => 2 * samples.length + 2
    | .idle => 0
    | .stopped => 0

theorem load_step? {d e : Dispatcher} (h : d.step? = some e) : e.load < d.load := by
  unfold step? at h
  split at h
  case h_1 endpoint s samples ht =>
    cases h
    have := d.intake.load_put s
    simp only [load, ht, List.length_cons]
    omega
  case h_2 endpoint ht => cases h; simp [load, ht]
  case h_3 ticket endpoint samples ht => split at h <;> cases h <;> simp +arith [load, ht]
  all_goals cases h

theorem load_advance? {d e : Dispatcher} {now : Int} (h : d.advance? now = some e) :
    e.load < d.load := by
  rcases Option.or_eq_some_iff.1 h with h | ⟨-, h⟩
  · exact load_step? h
  · obtain ⟨i, hi, rfl⟩ := Option.map_eq_some_iff.1 h
    simpa [load] using Intake.load_step? hi

def settle (d : Dispatcher) (now : Int) : Dispatcher :=
  match h : d.advance? now with
  | none => d
  | some e =>
    have := load_advance? h
    e.settle now
termination_by d.load

def deliver (d : Dispatcher) (o : Origin) (body : List UInt8) (now : Int) : Dispatcher :=
  (d.begin o body).settle now

def isIdle (d : Dispatcher) : Bool := d.task matches .idle

def isStopped (d : Dispatcher) : Bool := d.task matches .stopped

end Dispatcher

structure MessageFanIn where
  buffers : FanIn (List UInt8)
  /-- The later of two origins of one connection counts. -/
  origins : List (Nat × Origin)

namespace MessageFanIn

def origin? (m : MessageFanIn) (connection : Nat) : Option Origin :=
  (m.origins.find? (·.1 = connection)).map (·.2)

def ofList (sources : List (Origin × Inlet (List UInt8))) : MessageFanIn where
  buffers := .ofList (sources.map (·.2))
  origins := sources.foldl (fun origins (o, i) =>
    (i.index, o) :: origins.filter (·.1 ≠ i.index)) []

def deliveries (m : MessageFanIn) (n : Nat) : List Delivery × MessageFanIn :=
  let (items, buffers) := m.buffers.takeUpTo n
  (items.filterMap fun (connection, body) =>
    (m.origin? connection).map fun o => ⟨connection, o.dataSource, body⟩, { m with buffers })

def dispatchWithin (fuel : Nat) (m : MessageFanIn) (d : Dispatcher) (now : Int) :
    MessageFanIn × Dispatcher :=
  match fuel with
  | 0 => (m, d)
  | fuel + 1 =>
    if d.isIdle then
      match m.buffers.next? with
      | none => (m, d)
      | some (connection, body, buffers) =>
        let m := { m with buffers }
        match m.origin? connection with
        | none => (m, d)
        | some o => dispatchWithin fuel m (d.deliver o body now) now
    else (m, d)

def dispatch (m : MessageFanIn) (d : Dispatcher) (now : Int) : MessageFanIn × Dispatcher :=
  m.dispatchWithin (m.buffers.pending + 1) d now

def isRunning (m : MessageFanIn) (d : Dispatcher) : Bool := !d.isStopped && !m.buffers.isOver

end MessageFanIn

namespace Health

def follow (h : Health) (reports : FanIn LinkStatus) : Health × FanIn LinkStatus :=
  let (items, reports) := reports.takeUpTo reports.pending
  (items.foldl (fun h (_, s) => { h with bus := s }) h, reports)

end Health

end ScrapeBridge
