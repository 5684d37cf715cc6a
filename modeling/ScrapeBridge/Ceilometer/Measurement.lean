import ScrapeBridge.Json.Record
import ScrapeBridge.Name
import ScrapeBridge.Reading
import ScrapeBridge.Text.Pieces
import ScrapeBridge.Time.Timestamp

namespace ScrapeBridge.Ceilometer

/-- What one payload of a notification is made into; measurements come from nowhere else. Names,
labels and the value are all read off the payload, so that they agree with each other and there is
one value at most. -/
structure Measurement where
  publisher : String
  payload : Table Json

namespace Measurement

def text? (m : Measurement) (key : String) : Option String :=
  (m.payload.get? key).bind Json.text?

def counterName (m : Measurement) : String := (m.text? "counter_name").getD "unknown"

def resource (m : Measurement) : String := (m.text? "resource_id").getD ""

/-- The counter's name up to its first dot, and what stands between its other dots. -/
def nameParts (m : Measurement) : String × List String :=
  let (first, others) := Text.pieces '.' m.counterName.toList
  (String.ofList first, others.map String.ofList)

def plugin (m : Measurement) : String := m.nameParts.1

def type (m : Measurement) : String := m.nameParts.2[0]?.getD m.plugin

def typeInstance (m : Measurement) : String := m.nameParts.2[1]?.getD ""

def values (m : Measurement) : List Float :=
  ((m.payload.get? "counter_volume").bind Json.float?).toList

def timestampMs? (m : Measurement) : Option Int := (m.text? "timestamp").bind Time.timestamp?

def itemKey (m : Measurement) : String :=
  if m.resource.isEmpty then m.counterName else m.counterName ++ "_" ++ m.resource

def metricName (m : Measurement) : String :=
  ScrapeBridge.metricName <|
    "ceilometer_" ++ m.counterName.map fun c => if c = '.' then '_' else c

def kind (m : Measurement) : Kind :=
  if m.text? "counter_type" = some "gauge" then .gauge else .counter

def copiedLabels : List (String × String) :=
  [("project", "project_id"), ("resource", "resource_id"), ("unit", "counter_unit"),
    ("counter", "counter_name")]

def labels (m : Measurement) : Labels :=
  let name := if m.typeInstance.isEmpty then m.resource else m.typeInstance
  let own := ((Table.insert ∅ (labelName m.plugin) name).insert "publisher" m.publisher).insert
    "type" ((m.text? "counter_type").getD "base")
  copiedLabels.foldl (fun labels (label, key) =>
    match m.text? key with
    | some s => labels.insert label s
    | none => labels) own

def help (m : Measurement) : String :=
  "Service Telemetry exporter: '" ++ m.plugin ++ "' Type: '" ++ m.type ++
    "' Dstype: '" ++ (m.text? "counter_type").getD "counter" ++
    "' Dsname: '" ++ m.counterName ++ "'"

def reading? (m : Measurement) (useTimestamp : Bool) (i : Nat) : Option Reading := do
  let value ← m.values[i]?
  return {
    name := m.metricName
    help := m.help
    kind := m.kind
    labels := m.labels
    value
    timestampMs := if useTimestamp then m.timestampMs? else none }

end Measurement

end ScrapeBridge.Ceilometer
