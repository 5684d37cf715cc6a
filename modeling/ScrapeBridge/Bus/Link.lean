import ScrapeBridge.Text.Utf8

namespace ScrapeBridge

abbrev Body := List UInt8

inductive LinkError where
  | closed
  | fault (reason : String)
  deriving DecidableEq, Repr

def LinkError.message : LinkError → String
  | closed => "link closed by peer"
  | fault reason => "transport fault: " ++ reason

inductive ReceiveFailure where
  | remoteClosed
  | other (text : String)
  deriving DecidableEq, Repr

def LinkError.ofFailure : ReceiveFailure → LinkError
  | .remoteClosed => closed
  | .other text => fault text

inductive BusValue where
  | null
  | bool (b : Bool)
  | long (n : Int)
  | binary (bytes : Body)
  | string (s : String)
  | symbol (s : String)
  | list (items : List BusValue)
  | other (type : String)

/-- The body section of a message: one value, a batch of byte strings, or lists of values. A message
may come without one. -/
inductive Section where
  | value (v : BusValue)
  | data (parts : List Body)
  | sequence (items : List BusValue)
  | absent

namespace Section

def bytes? : Section → Option Body
  | value (.binary bytes) => some bytes
  | value (.string s) => some s.toUTF8.toList
  | data parts => some parts.flatten
  | _ => none

end Section

structure Link.Delivery where
  number : Nat
  body : Section

inductive LinkAct where
  | accepted (number : Nat)
  | returned (r : Except LinkError Body)
  | released

/-- Accepts every message that is delivered to it, yields the bodies of those that carry bytes or a
text, and skips all others. -/
structure Link where
  incoming : List Link.Delivery
  ending : ReceiveFailure
  /-- Why the peer cannot be told that a delivery is accepted, if that is so. -/
  refusal : Link.Delivery → Option String := fun _ => none
  attached : Bool := true
  history : List LinkAct := []

namespace Link

def note (l : Link) (acts : List LinkAct) : Link := { l with history := l.history ++ acts }

/-- Accepts deliveries up to the first that has a body to yield, or up to a failure. -/
def receiveFrom (l : Link) : List Delivery → Except LinkError Body × Link
  | [] => (.error (.ofFailure l.ending), l)
  | d :: rest =>
    let l := { l with incoming := rest }
    match l.refusal d with
    | some reason => (.error (.fault ("accepting delivery: " ++ reason)), l)
    | none =>
      let l := l.note [.accepted d.number]
      match d.body.bytes? with
      | some bytes => (.ok bytes, l)
      | none => receiveFrom l rest

/-- The next body. A link that has been closed is not attached any more. -/
def receive (l : Link) : Except LinkError Body × Link :=
  if l.attached then l.receiveFrom l.incoming
  else (.error (.fault "link is not attached"), l)

def close (l : Link) : Link :=
  if l.attached then { l.note [.released] with attached := false } else l

inductive Call where
  | receive
  | close

def apply (l : Link) : Call → Link
  | .receive =>
    let (r, l) := l.receive
    l.note [.returned r]
  | .close => l.close

def run (l : Link) (calls : List Call) : Link := calls.foldl apply l

end Link

end ScrapeBridge
