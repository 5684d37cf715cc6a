import ScrapeBridge.Ceilometer.Measurement
import ScrapeBridge.Json.Reader

namespace ScrapeBridge.Ceilometer

open Json

def requestText? (j : Json) : Option String := do
  match ← fields? ["oslo.message"] j with
  | [some text] => Json.text? text
  | _ => none

/-- The notification's text, if the envelope holds one. The request comes first. -/
def envelope? (j : Json) : Option (Option String) := do
  match ← fields? ["request", "oslo.message"] j with
  | [request, text] =>
    let request ← orDefault none (optional? requestText?) request
    let text ← orDefault none (optional? Json.text?) text
    return request.or text
  | _ => none

/-- An object as a table; of members with the same key the last counts. -/
def payload? (j : Json) : Option (Table Json) :=
  (members? j).map Table.ofList

/-- How deeply a payload may be nested inside its notification. -/
def maxPayloadDepth : Nat := 126

def payloads? (j : Json) : Option (List (Table Json)) :=
  if j.readable ∧ j.depth ≤ maxPayloadDepth then
    match j with
    | .array items => items.mapM payload?
    | j => (payload? j).map ([·])
  else none

def notification? (j : Json) : Option (List Measurement) := do
  match ← fields? ["publisher_id", "payload"] j with
  | [publisher, payload] =>
    let publisher ← orDefault "" Json.text? publisher
    let payloads ← orDefault [] payloads? payload
    return payloads.map (⟨publisher, ·⟩)
  | _ => none

/-- The measurements of a message: `none` if it is malformed, `some none` if its envelope is
empty. -/
def decode (text : List Char) : Option (Option (List Measurement)) := do
  match ← envelope? (← Json.read text) with
  | none => return none
  | some inner => some <$> notification? (← Json.read inner.toList)

end ScrapeBridge.Ceilometer
