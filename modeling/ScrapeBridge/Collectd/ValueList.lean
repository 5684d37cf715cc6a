import ScrapeBridge.Name
import ScrapeBridge.Reading

namespace ScrapeBridge.Collectd

/-- The values that one plugin instance reports for one type. The three lists may differ in length.
-/
structure ValueList where
  values : List Float := []
  dataTypes : List String := []
  dataNames : List String := []
  time : Float := 0
  interval : Float := 0
  host : String := ""
  plugin : String := ""
  pluginInstance : String := ""
  type : String := ""
  typeInstance : String := ""

namespace ValueList

def identity (v : ValueList) : String :=
  if v.plugin = v.type then v.type else v.plugin ++ "_" ++ v.type

def itemKey (v : ValueList) : String :=
  let suffix (s : String) := if s.isEmpty then "" else "_" ++ s
  v.identity ++ suffix v.pluginInstance ++ suffix v.typeInstance

def dataType (v : ValueList) (i : Nat) : String := v.dataTypes[i]?.getD ""

/-- A value without a name is named by its index, or `value` if it is the only one. -/
def dataName (v : ValueList) (i : Nat) : String :=
  v.dataNames[i]?.getD (if v.values.length = 1 then "value" else toString i)

def kind? (v : ValueList) (i : Nat) : Option Kind :=
  match v.dataType i with
  | "gauge" => some .gauge
  | "counter" => some .counter
  | "derive" => some .counter
  | _ => none

def metricName (v : ValueList) (i : Nat) : String :=
  ScrapeBridge.metricName <|
    "collectd_" ++ v.identity ++
      (if v.dataName i = "value" then "" else "_" ++ v.dataName i) ++
      (if v.kind? i = some .counter then "_total" else "")

/-- The plugin's label holds the plugin instance, or else the type instance, or else `base`. The
label `type` holds the type instance if the plugin's label does not. -/
def labels (v : ValueList) : Labels :=
  let plugin := labelName v.plugin
  let instances : Labels :=
    if v.pluginInstance.isEmpty then
      if v.typeInstance.isEmpty then ∅ else Table.insert ∅ plugin v.typeInstance
    else
      let own := Table.insert ∅ plugin v.pluginInstance
      if v.typeInstance.isEmpty then own else own.insert "type" v.typeInstance
  ((instances.insertIfNew plugin "base").insertIfNew "type" "base").insert "instance" v.host

def help (v : ValueList) (i : Nat) : String :=
  "Service Telemetry exporter: '" ++ v.plugin ++ "' Type: '" ++ v.type ++
    "' Dstype: '" ++ v.dataType i ++ "' Dsname: '" ++ v.dataName i ++ "'"

/-- Milliseconds since the epoch, toward zero and within 64 bits. -/
def timestampMs (v : ValueList) : Int := (v.time * 1000).toInt64.toInt

def reading? (v : ValueList) (useTimestamp : Bool) (i : Nat) : Option Reading := do
  let kind ← v.kind? i
  let value ← v.values[i]?
  return {
    name := v.metricName i
    help := v.help i
    kind, value
    labels := v.labels
    timestampMs := if useTimestamp then some v.timestampMs else none }

end ValueList

end ScrapeBridge.Collectd
