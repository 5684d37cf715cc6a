import ScrapeBridge.Cache.Shard

namespace ScrapeBridge

/-- For every host the shard that holds its samples. Others may keep hold of a shard, so each has a
number of its own and stays readable after it has left the cache. -/
structure Cache where
  timeToLive : Int
  shards : List Cache.Shard
  live : Table Nat

namespace Cache

/-- An empty cache. A time to live is at most the largest number of 64 bits with a sign. -/
def create (seconds : Nat) : Cache := ⟨min seconds 9223372036854775807, [], ∅⟩

def size (c : Cache) : Nat := c.live.entries.length

def find? (c : Cache) (host : String) : Option (Nat × Shard) := do
  let id ← c.live.get? host
  let shard ← c.shards[id]?
  return (id, shard)

def obtain (c : Cache) (host : String) (now : Int) : Cache × Nat × Shard :=
  let fresh :=
    let shard := Shard.create host c.timeToLive now
    let id := c.shards.length
    ({ c with shards := c.shards ++ [shard], live := c.live.insert host id }, id, shard)
  match c.find? host with
  | some (id, shard) => if shard.retired then fresh else (c, id, shard)
  | none => fresh

/-- Merges a sample, in at most `attempts` attempts. Another attempt follows one whose shard was
retired meanwhile. -/
def insertWithin (attempts : Nat) (c : Cache) (sample : Sample) (now : Int) : Option Cache :=
  match attempts with
  | 0 => none
  | attempts + 1 =>
    let (c, id, shard) := c.obtain sample.hostKey now
    match shard.accept? sample now with
    | some shard => some { c with shards := c.shards.set id shard }
    | none => insertWithin attempts c sample now

def insert (c : Cache) (sample : Sample) (now : Int) : Cache :=
  (c.insertWithin 1 sample now).getD c

structure Activity where
  host : String
  newValues : Nat
  deriving DecidableEq, Repr

structure Flush where
  readings : List Reading
  /-- Every host there was, those included that the flush removed. -/
  hosts : List Activity

def liveShards (c : Cache) : List Shard := c.live.entries.filterMap fun e => c.shards[e.2]?

def emission (c : Cache) (useTimestamp : Bool) : Flush where
  readings := c.liveShards.flatMap (·.newReadings useTimestamp)
  hosts := c.liveShards.map fun s => ⟨s.host, (s.newReadings useTimestamp).length⟩

def afterFlush (c : Cache) (now : Int) : Cache :=
  let shards := c.shards.mapIdx fun id s =>
    if c.live.entries.any (·.2 = id) then s.flush now else s
  { c with
    shards
    live := c.live.filterMap fun id =>
      match shards[id]? with
      | some s => if s.items.isEmpty then none else some id
      | none => none }

def flush (c : Cache) (now : Int) (useTimestamp : Bool) : Cache × Flush :=
  (c.afterFlush now, c.emission useTimestamp)

inductive Event where
  | insert (sample : Sample) (now : Int)
  | flush (now : Int) (useTimestamp : Bool)

def apply (c : Cache) : Event → Cache
  | .insert sample now => c.insert sample now
  | .flush now useTimestamp => (c.flush now useTimestamp).1

def run (c : Cache) (events : List Event) : Cache := events.foldl apply c

end Cache

end ScrapeBridge
