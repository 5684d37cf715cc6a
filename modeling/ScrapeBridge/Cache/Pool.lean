import ScrapeBridge.Sample

namespace ScrapeBridge.Cache

structure Buffer where
  /-- Tells buffers apart that carry the same. -/
  id : Nat
  sample : Option Sample

namespace Buffer

def isEmpty (b : Buffer) : Bool := b.sample.isNone

def put (b : Buffer) (s : Sample) : Buffer := { b with sample := some s }

end Buffer

structure Pool where
  capacity : Nat
  free : List Buffer
  made : Nat

inductive CapacityError where
  | zero
  | tooLarge
  deriving DecidableEq, Repr

def CapacityError.message : CapacityError → String
  | zero => "capacity must be non-zero"
  | tooLarge => "capacity overflow"

namespace Pool

/-- An assumption about the queue that keeps the buffers: each of its slots takes 16 bytes, and an
allocation is less than half of what 64 bits can address. -/
def largestCapacity : Nat := 576460752303423487

def create (capacity : Nat) : Pool := ⟨capacity, [], 0⟩

/-- An empty list, if its capacity can be had. -/
def ofCapacity (capacity : Nat) : Except CapacityError Pool :=
  if capacity = 0 then .error .zero
  else if largestCapacity < capacity then .error .tooLarge
  else .ok (create capacity)

def make (p : Pool) : Buffer × Pool := (⟨p.made, none⟩, { p with made := p.made + 1 })

def acquire (p : Pool) : Buffer × Pool :=
  match p.free with
  | b :: free => (b, { p with free })
  | [] => p.make

/-- Empties a buffer and puts it into the list, or drops it if the list is full. -/
def release (p : Pool) (b : Buffer) : Pool :=
  if p.free.length < p.capacity then { p with free := p.free ++ [{ b with sample := none }] } else p

def available (p : Pool) : Nat := p.free.length

end Pool

end ScrapeBridge.Cache
