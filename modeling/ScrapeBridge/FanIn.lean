namespace ScrapeBridge

def outputs {σ ε β : Type} (apply : σ → ε → σ) (output? : σ → ε → Option β) (s : σ) :
    List ε → List β
  | [] => []
  | e :: events => (output? s e).toList ++ outputs apply output? (apply s e) events

structure Inlet (α : Type) where
  index : Nat
  waiting : List α
  ended : Bool

structure FanIn (α : Type) where
  inlets : List (Inlet α)
  stopped : Bool := false

namespace Inlet

variable {α : Type}

def isOver (i : Inlet α) : Bool := i.ended && i.waiting.isEmpty

def push (a : α) (i : Inlet α) : Inlet α :=
  if i.ended then i else { i with waiting := i.waiting ++ [a] }

def finish (i : Inlet α) : Inlet α := { i with ended := true }

end Inlet

namespace FanIn

variable {α : Type}

def add (f : FanIn α) (i : Inlet α) : FanIn α :=
  { f with inlets := f.inlets.filter (·.index ≠ i.index) ++ [i] }

def ofList (inlets : List (Inlet α)) : FanIn α := inlets.foldl add ⟨[], false⟩

def modify (f : FanIn α) (index : Nat) (g : Inlet α → Inlet α) : FanIn α :=
  { f with inlets := f.inlets.map fun i => if i.index = index then g i else i }

def push (f : FanIn α) (index : Nat) (a : α) : FanIn α := f.modify index (·.push a)

def finish (f : FanIn α) (index : Nat) : FanIn α := f.modify index .finish

def stop (f : FanIn α) : FanIn α := { f with stopped := true }

def size (f : FanIn α) : Nat := f.inlets.countP (!·.isOver)

def isOver (f : FanIn α) : Bool := f.stopped || f.inlets.all (·.isOver)

def ready (f : FanIn α) : List Nat := (f.inlets.filter (!·.waiting.isEmpty)).map (·.index)

def takeFrom (index : Nat) : List (Inlet α) → Option (α × List (Inlet α))
  | [] => none
  | i :: rest =>
    if i.index = index then
      match i.waiting with
      | [] => none
      | a :: waiting => some (a, { i with waiting } :: rest)
    else (takeFrom index rest).map fun (a, rest) => (a, i :: rest)

def take? (f : FanIn α) (index : Nat) : Option (α × FanIn α) :=
  if f.stopped then none
  else (takeFrom index f.inlets).map fun (a, inlets) => (a, { f with inlets })

def next? (f : FanIn α) : Option (Nat × α × FanIn α) := do
  let index ← f.ready.head?
  let (a, f) ← f.take? index
  return (index, a, f)

def takeUpTo : Nat → FanIn α → List (Nat × α) × FanIn α
  | 0, f => ([], f)
  | n + 1, f =>
    match f.next? with
    | none => ([], f)
    | some (index, a, f) =>
      let (items, f) := takeUpTo n f
      ((index, a) :: items, f)

def pending (f : FanIn α) : Nat := (f.inlets.flatMap (·.waiting)).length

inductive Event (α : Type) where
  | push (index : Nat) (a : α)
  | finish (index : Nat)
  | stop
  | ask (choice : Option Nat)

/-- What the reader gets: an item of the inlet chosen, also after a stop if it is ready, or `none` if
there are to be no more. As long as it can have neither, it waits. -/
def answer? (f : FanIn α) : Option Nat → Option (Option (Nat × α) × FanIn α)
  | some index =>
    (takeFrom index f.inlets).map fun (a, inlets) => (some (index, a), { f with inlets })
  | none => if f.isOver then some (none, f) else none

def apply (f : FanIn α) : Event α → FanIn α
  | .push index a => f.push index a
  | .finish index => f.finish index
  | .stop => f.stop
  | .ask choice => ((f.answer? choice).map (·.2)).getD f

def run (f : FanIn α) (events : List (Event α)) : FanIn α := events.foldl apply f

def answered? (f : FanIn α) : Event α → Option (Option (Nat × α))
  | .ask choice => (f.answer? choice).map (·.1)
  | _ => none

def answers (f : FanIn α) (events : List (Event α)) : List (Option (Nat × α)) :=
  outputs apply answered? f events

end FanIn

end ScrapeBridge
