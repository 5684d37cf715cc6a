import ScrapeBridge.Cache.Basic
import ScrapeBridge.Cache.Pool

namespace ScrapeBridge

open Cache (Buffer Pool)

namespace Intake

/-- How many samples may wait, and how many buffers are kept for reuse. -/
def capacity : Nat := 1000

inductive Worker where
  | absent
  | running
  | draining
  | stopped
  deriving DecidableEq, Repr

inductive Act where
  | accepted (ticket : Nat) (s : Sample)
  | refused (ticket : Nat)
  | merged (s : Sample)

def Act.answer? (ticket : Nat) : Act → Option Bool
  | accepted t _ => if t = ticket then some true else none
  | refused t => if t = ticket then some false else none
  | merged _ => none

def refusal : String := "cache ingestion worker has stopped"

def startedTwice : String := "cache server already started"

end Intake

open Intake

/-- Samples wait in a bounded queue for the one worker that merges them. Told to stop, the worker
closes the queue, merges what is in it, and ends. -/
structure Intake where
  cache : Cache
  pool : Pool := .create capacity
  queue : List Buffer := []
  waiting : List (Nat × Buffer) := []
  tickets : Nat := 0
  worker : Worker := .absent
  stopping : Bool := false
  history : List Act := []

namespace Intake

def create (seconds : Nat) : Intake := { cache := .create seconds }

def isClosed (i : Intake) : Bool := i.worker = .draining || i.worker = .stopped

def accepted (i : Intake) : Nat := i.history.countP fun | .accepted _ _ => true | _ => false

def refused (i : Intake) : Nat := i.history.countP fun | .refused _ => true | _ => false

/-- What has become of a put: accepted, refused, or still waiting. -/
def answer? (i : Intake) (ticket : Nat) : Option Bool := i.history.findSome? (·.answer? ticket)

def accept (i : Intake) (ticket : Nat) (b : Buffer) : Intake :=
  { i with
    queue := i.queue ++ [b]
    history := (b.sample.map (.accepted ticket)).toList ++ i.history }

def refuse (i : Intake) (ticket : Nat) : Intake :=
  { i with history := .refused ticket :: i.history }

/-- Puts a sample in, in a buffer out of the pool. Those who already wait come first. -/
def put (i : Intake) (s : Sample) : Intake :=
  let (b, pool) := i.pool.acquire
  let b := b.put s
  let ticket := i.tickets
  let i := { i with pool, tickets := ticket + 1 }
  if i.isClosed then i.refuse ticket
  else if i.waiting.isEmpty ∧ i.queue.length < capacity then i.accept ticket b
  else { i with waiting := i.waiting ++ [(ticket, b)] }

def letIn? (i : Intake) : Option Intake :=
  match i.waiting with
  | [] => none
  | (ticket, b) :: waiting =>
    if i.queue.length < capacity then some ({ i with waiting }.accept ticket b) else none

def start (i : Intake) : Option Intake :=
  if i.worker = .absent then some { i with worker := .running } else none

def stop (i : Intake) : Intake := { i with stopping := true }

def close (i : Intake) : Intake :=
  { i with
    worker := .draining
    waiting := []
    history := (i.waiting.map fun w => Act.refused w.1).reverse ++ i.history }

def ingest (i : Intake) (b : Buffer) (now : Int) : Intake :=
  { i with
    cache := (b.sample.map (i.cache.insert · now)).getD i.cache
    pool := i.pool.release b
    history := (b.sample.map .merged).toList ++ i.history }

/-- The next step of the worker, or `none` if it waits. With `stopFirst` a stop goes before a sample
that is ready. -/
def work? (i : Intake) (now : Int) (stopFirst : Bool) : Option Intake :=
  match i.worker, i.queue with
  | .running, [] => if i.stopping then some i.close else none
  | .running, b :: queue =>
    if i.stopping ∧ stopFirst then some i.close else some ({ i with queue }.ingest b now)
  | .draining, [] => some { i with worker := .stopped }
  | .draining, b :: queue => some ({ i with queue }.ingest b now)
  | .absent, _ => none
  | .stopped, _ => none

def step? (i : Intake) (now : Int) : Option Intake := (i.work? now true).or i.letIn?

def load (i : Intake) : Nat :=
  3 * i.waiting.length + 2 * i.queue.length +
    match i.worker with
    | .absent => 0
    | .running => 2
    | .draining => 1
    | .stopped => 0

theorem load_put (i : Intake) (s : Sample) : (i.put s).load ≤ i.load + 3 := by
  unfold put
  split
  simp only
  split
  · simp [refuse, load]
  · split
    · simp +arith [accept, load]
    · simp +arith [load]

theorem load_work? {i j : Intake} {now : Int} {stopFirst : Bool}
    (h : i.work? now stopFirst = some j) : j.load < i.load := by
  unfold work? at h
  split at h
  case h_1 hw hq => split at h <;> cases h; simp +arith [close, load, hw, hq]
  case h_2 b queue hw hq =>
    split at h
    · cases h
      simp +arith [close, load, hw, hq]
    · cases h
      simp [ingest, load, hw, hq]
  case h_3 hw hq => cases h; simp [load, hw, hq]
  case h_4 b queue hw hq => cases h; simp [ingest, load, hw, hq]
  all_goals cases h

theorem load_letIn? {i j : Intake} (h : i.letIn? = some j) : j.load < i.load := by
  unfold letIn? at h
  split at h
  · cases h
  case h_2 ticket b waiting hw => split at h <;> cases h; simp +arith [accept, load, hw]

theorem load_step? {i j : Intake} {now : Int} (h : i.step? now = some j) : j.load < i.load := by
  rcases Option.or_eq_some_iff.1 h with h | ⟨-, h⟩
  · exact load_work? h
  · exact load_letIn? h

def settle (i : Intake) (now : Int) : Intake :=
  match h : i.step? now with
  | none => i
  | some j =>
    have := load_step? h
    j.settle now
termination_by i.load

inductive Event where
  | put (s : Sample)
  | start
  | stop
  | work (now : Int) (stopFirst : Bool)
  | letIn
  | flush (now : Int) (useTimestamp : Bool)
  | borrow
  | donate (sample : Option Sample)

def apply (i : Intake) : Event → Intake
  | .put s => i.put s
  | .start => i.start.getD i
  | .stop => i.stop
  | .work now stopFirst => (i.work? now stopFirst).getD i
  | .letIn => i.letIn?.getD i
  | .flush now useTimestamp => { i with cache := (i.cache.flush now useTimestamp).1 }
  | .borrow => { i with pool := i.pool.acquire.2 }
  | .donate sample =>
    let (b, pool) := i.pool.make
    { i with pool := pool.release { b with sample } }

def run (i : Intake) (events : List Event) : Intake := events.foldl apply i

end Intake

end ScrapeBridge
