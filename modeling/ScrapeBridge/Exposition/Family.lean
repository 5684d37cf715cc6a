import ScrapeBridge.Reading

namespace ScrapeBridge

structure Metric where
  kind : Kind
  labels : List (String × String)
  value : Float
  timestampMs : Option Int

structure Family where
  name : String
  help : String
  kind : Kind
  metrics : List Metric

namespace Metric

def gauge (labels : List (String × String)) (value : Float) (timestampMs : Option Int) : Metric :=
  ⟨.gauge, labels, value, timestampMs⟩

def time (m : Metric) : Int := m.timestampMs.getD 0

/-- Fewer labels come first, then smaller label values, then earlier times. -/
def compare (a b : Metric) : Ordering :=
  (Ord.compare a.labels.length b.labels.length).then <|
    (compareValues (a.labels.map (·.2)) (b.labels.map (·.2))).then <|
      Ord.compare a.time b.time
where
  compareValues : List String → List String → Ordering
    | x :: xs, y :: ys => (Ord.compare x y).then (compareValues xs ys)
    | _, _ => .eq

end Metric

namespace Family

def single (name help : String) (value : Float) (timestampMs : Option Int) : Family :=
  ⟨name, help, .gauge, [.gauge [] value timestampMs]⟩

/-- Appends a family's metrics to the first family of its name. Empty families are left out. -/
def merge (families : Table Family) (f : Family) : Table Family :=
  if f.metrics.isEmpty then families
  else
    match families.get? f.name with
    | some g => families.insert f.name { g with metrics := g.metrics ++ f.metrics }
    | none => families.insert f.name f

/-- What a registry gathers from its collectors: families in the order of their names, each with
its metrics in order. -/
def gather (families : List Family) : List Family :=
  (families.foldl merge ∅).entries.map fun (_, f) =>
    { f with metrics := f.metrics.mergeSort fun a b => (a.compare b).isLE }

end Family

end ScrapeBridge
