import ScrapeBridge.Bus.Link
import ScrapeBridge.Config.Basic
import ScrapeBridge.Health

namespace ScrapeBridge

inductive ConnectionState where
  | idle
  | connecting
  | active
  | reconnecting
  | closed
  deriving DecidableEq, Repr

def ConnectionState.name : ConnectionState → String
  | idle => "idle"
  | connecting => "connecting"
  | active => "active"
  | reconnecting => "reconnecting"
  | closed => "closed"

abbrev Arrival := Except LinkError Body

inductive DialOutcome where
  | opened
  | failed (reason : String)
  | unanswered
  deriving DecidableEq, Repr

/-- What the semaphore behind a channel is assumed to allow: no more permits than this, and a buffer
needs one for each message. -/
def largestBuffer : Nat := 2305843009213693951

inductive StartError where
  | failed (endpoint reason : String)
  | unanswered (endpoint : String)
  | bufferTooLarge
  deriving DecidableEq, Repr

def StartError.message : StartError → String
  | failed endpoint reason => "connecting to " ++ endpoint ++ ": " ++ reason
  | unanswered endpoint => "connecting to " ++ endpoint
  | bufferTooLarge =>
    "a semaphore may not have more than MAX_PERMITS permits (" ++ toString largestBuffer ++ ")"

namespace Connection

inductive Phase where
  | receiving
  | pushing (body : Body)
  | backingOff (deadline : Nat)
  | redialing
  | hanging
  | ended
  deriving DecidableEq, Repr

inductive Act where
  | entered (s : ConnectionState)
  | reported (s : LinkStatus)
  | dialed
  | closedLink
  | took (a : Arrival)
  | pushed (body : Body)
  | finished

end Connection

open Connection

/-- The task that receives from one endpoint into a bounded buffer, and dials again after a fault.
Where a stop and something else are ready at once, either may be served first. -/
structure Connection where
  settings : ConnectionSettings
  endpoint : String
  /-- What the links of the endpoint are going to yield, whichever link asks. -/
  feed : List Arrival
  /-- The outcomes of the dials to come; past the end dials succeed. -/
  plan : List DialOutcome
  /-- Nanoseconds. -/
  now : Nat := 0
  phase : Phase := .receiving
  received : Nat := 0
  reconnects : Nat := 0
  buffer : List Body := []
  consumed : List Body := []
  consumerGone : Bool := false
  reportsRead : Nat := 0
  stopping : Bool := false
  history : List (Nat × Act)

namespace Connection

def capacity (c : Connection) : Nat := max c.settings.bufferSize 1

def acts (c : Connection) : List Act := c.history.map (·.2)

def states (c : Connection) : List ConnectionState :=
  c.acts.filterMap fun | .entered s => some s | _ => none

def state (c : Connection) : ConnectionState := c.states.getLast?.getD .idle

def reports (c : Connection) : List LinkStatus :=
  c.acts.filterMap fun | .reported s => some s | _ => none

def dials (c : Connection) : Nat := c.acts.countP fun | .dialed => true | _ => false

def linkCloses (c : Connection) : Nat := c.acts.countP fun | .closedLink => true | _ => false

def isFinished (c : Connection) : Bool := c.acts.any fun | .finished => true | _ => false

def hasEnded (c : Connection) : Bool := c.phase = .ended

def note (c : Connection) (acts : List Act) : Connection :=
  { c with history := c.history ++ acts.map (c.now, ·) }

def start (settings : ConnectionSettings) (endpoint : String) (feed : List Arrival)
    (plan : List DialOutcome) : Except StartError Connection :=
  if largestBuffer < settings.bufferSize then .error .bufferTooLarge
  else match plan.headD .opened with
  | .opened =>
    .ok { settings, endpoint, feed, plan := plan.tail, history := [
      (0, .entered .connecting), (0, .dialed), (0, .entered .active), (0, .reported .up)] }
  | .failed reason => .error (.failed endpoint reason)
  | .unanswered => .error (.unanswered endpoint)

def atLimit (c : Connection) : Bool := c.settings.messageCount.any (· ≤ c.received)

def finish (c : Connection) (drained : Bool) : Connection :=
  { c.note ([.closedLink, .entered .closed] ++ if drained then [.finished] else []) with
    phase := .ended }

/-- An assumption about the runtime's timer: it sleeps for thirty years of 365 days at most, and
takes any longer sleep for one of that length. -/
def longestWait : Duration := .ofSeconds 946080000

def wait (c : Connection) : Nat :=
  min c.settings.reconnectBackoff.nanoseconds longestWait.nanoseconds

def backOff (c : Connection) (acts : List Act) : Connection :=
  { c.note (acts ++ [.reported .down, .closedLink]) with phase := .backingOff (c.now + c.wait) }

def take (c : Connection) (a : Arrival) : Connection :=
  match a with
  | .ok body => { c.note [.took a] with received := c.received + 1, phase := .pushing body }
  | .error .closed => (c.note [.took a]).finish false
  | .error (.fault _) => c.backOff [.took a, .entered .reconnecting]

def dial (c : Connection) (outcome : DialOutcome) : Connection :=
  match outcome with
  | .opened => { c.note [.dialed, .entered .active, .reported .up] with phase := .receiving }
  | .failed _ => c.backOff [.dialed]
  | .unanswered => { c.note [.dialed] with phase := .hanging }

def proceed? (c : Connection) : Option Connection :=
  match c.phase with
  | .receiving =>
    match c.feed with
    | [] => none
    | a :: feed => some ({ c with feed }.take a)
  | .pushing body =>
    if c.consumerGone then some (c.finish false)
    else if c.buffer.length < c.capacity then
      some { c.note [.pushed body] with buffer := c.buffer ++ [body], phase := .receiving }
    else none
  | .backingOff deadline =>
    if deadline ≤ c.now then some { c with reconnects := c.reconnects + 1, phase := .redialing }
    else none
  | .redialing => some ({ c with plan := c.plan.tail }.dial (c.plan.headD .opened))
  | .hanging => none
  | .ended => none

/-- The next step, or `none` if the task waits. With `stopFirst` a stop goes before anything else
that is ready. The limit is looked at first, and only between two messages. -/
def step? (c : Connection) (stopFirst : Bool) : Option Connection :=
  if c.phase = .ended then none
  else if c.phase = .receiving ∧ c.atLimit then some (c.finish true)
  else if c.stopping then
    if stopFirst then some (c.finish false) else c.proceed?.or (some (c.finish false))
  else c.proceed?

def work (c : Connection) : Nat :=
  4 * c.feed.length + 2 * c.plan.length +
    match c.phase with
    | .receiving => 1
    | .pushing _ => 2
    | .backingOff _ => 4
    | .redialing => 3
    | .hanging => 1
    | .ended => 0

theorem work_finish (c : Connection) (drained : Bool) (h : c.phase ≠ .ended) :
    (c.finish drained).work < c.work := by
  have hd : (c.finish drained).work = 4 * c.feed.length + 2 * c.plan.length := rfl
  rw [hd, work]
  cases hp : c.phase <;> simp_all

theorem work_proceed? {c d : Connection} (h : c.proceed? = some d) : d.work < c.work := by
  unfold proceed? at h
  split at h
  case h_1 hp =>
    split at h
    case h_1 => cases h
    case h_2 a feed hf =>
      cases h
      match a with
      | .ok body => simp +arith [take, note, work, hp, hf]
      | .error .closed => simp +arith [take, note, finish, work, hp, hf]
      | .error (.fault reason) => simp +arith [take, backOff, note, work, hp, hf]
  case h_2 body hp =>
    split at h
    · cases h
      exact work_finish c false (by simp [hp])
    · split at h <;> cases h
      simp [note, work, hp]
  case h_3 deadline hp => split at h <;> cases h; simp [work, hp]
  case h_4 hp =>
    cases h
    rcases hl : c.plan with _ | ⟨_ | _ | _, rest⟩ <;>
      simp +arith [dial, backOff, note, work, hp, hl]
  all_goals cases h

theorem work_step? {c d : Connection} {stopFirst : Bool} (h : c.step? stopFirst = some d) :
    d.work < c.work := by
  unfold step? at h
  split at h
  · cases h
  case isFalse hp =>
    split at h
    · cases h
      exact work_finish c true hp
    · split at h
      · split at h
        · cases h
          exact work_finish c false hp
        · cases ho : c.proceed? with
          | none =>
            rw [ho] at h
            cases h
            exact work_finish c false hp
          | some e =>
            rw [ho] at h
            cases h
            exact work_proceed? ho
      · exact work_proceed? h

def settle (c : Connection) : Connection :=
  match h : c.step? true with
  | none => c
  | some d =>
    have := work_step? h
    d.settle
termination_by c.work

def allBodies (c : Connection) : Nat := c.feed.length + c.buffer.length + 2

inductive Event where
  | feed (arrivals : List Arrival)
  | plan (outcomes : List DialOutcome)
  | advance (nanoseconds : Nat)
  | stop
  | receive
  | dropConsumer
  | step (stopFirst : Bool)

def receive? (c : Connection) : Option (Body × Connection) :=
  match c.buffer with
  | [] => none
  | body :: buffer => some (body, { c with buffer, consumed := c.consumed ++ [body] })

def apply (c : Connection) : Event → Connection
  | .feed arrivals => { c with feed := c.feed ++ arrivals }
  | .plan outcomes => { c with plan := c.plan ++ outcomes }
  | .advance nanoseconds => { c with now := c.now + nanoseconds }
  | .stop => { c with stopping := true }
  | .receive => (c.receive?.map (·.2)).getD c
  | .dropConsumer => { c with consumerGone := true, buffer := [] }
  | .step stopFirst => (c.step? stopFirst).getD c

def run (c : Connection) (events : List Event) : Connection := events.foldl apply c

end Connection

end ScrapeBridge
