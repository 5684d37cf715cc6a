import ScrapeBridge.Sample

namespace ScrapeBridge.Cache

structure Entry where
  sample : Sample
  isNew : Bool

structure Shard where
  host : String
  timeToLive : Int
  items : Table Entry
  lastAccess : Int
  retired : Bool

namespace Shard

def create (host : String) (timeToLive now : Int) : Shard := ⟨host, timeToLive, ∅, now, false⟩

/-- The seconds since the last sample came in, as a signed number of 64 bits. -/
def age (s : Shard) (now : Int) : Int := (now - s.lastAccess).bmod UInt64.size

def expired (s : Shard) (now : Int) : Bool := s.timeToLive < s.age now

/-- Takes a sample in, in place of the one with its item key; a retired shard refuses it. -/
def accept? (s : Shard) (sample : Sample) (now : Int) : Option Shard :=
  if s.retired then none
  else some { s with
    lastAccess := now
    items := s.items.insert sample.itemKey ⟨sample, true⟩ }

def survivor? (expired : Bool) (e : Entry) : Option Entry :=
  if e.isNew then some { e with isNew := false }
  else if expired then none
  else some e

def newReadings (s : Shard) (useTimestamp : Bool) : List Reading :=
  s.items.entries.flatMap fun (_, e) => if e.isNew then e.sample.readings useTimestamp else []

/-- Every item that is new is demoted; one that was demoted before goes if the host has been silent
for longer than its time to live. A shard that is left empty accepts nothing more. -/
def flush (s : Shard) (now : Int) : Shard :=
  let items := s.items.filterMap (survivor? (s.expired now))
  { s with items, retired := s.retired || items.isEmpty }

end Shard

end ScrapeBridge.Cache
