import ScrapeBridge.Collectd.ValueList
import ScrapeBridge.Json.Reader
import ScrapeBridge.Json.Record

namespace ScrapeBridge.Collectd

open Json

def notANumber : Float := 0 / 0

def values? (j : Json) : Option (List Float) := do
  let values ← optional? (list? (optional? float?)) j
  return (values.getD []).map (·.getD notANumber)

def texts? (j : Json) : Option (List String) := do
  let texts ← optional? (list? text?) j
  return texts.getD []

def ValueList.fieldNames : List String :=
  ["values", "dstypes", "dsnames", "time", "interval", "host", "plugin", "plugin_instance", "type",
    "type_instance"]

def ValueList.ofJson? (j : Json) : Option ValueList := do
  match ← fields? ValueList.fieldNames j with
  | [values, dataTypes, dataNames, time, interval, host, plugin, pluginInstance, type,
      typeInstance] =>
    return {
      values := ← orDefault [] values? values
      dataTypes := ← orDefault [] texts? dataTypes
      dataNames := ← orDefault [] texts? dataNames
      time := ← orDefault 0 float? time
      interval := ← orDefault 0 float? interval
      host := ← orDefault "" text? host
      plugin := ← orDefault "" text? plugin
      pluginInstance := ← orDefault "" text? pluginInstance
      type := ← orDefault "" text? type
      typeInstance := ← orDefault "" text? typeInstance }
  | _ => none

def decode (text : List Char) : Option (List ValueList) := do
  list? ValueList.ofJson? (← Json.read text)

end ScrapeBridge.Collectd
