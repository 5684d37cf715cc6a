import ScrapeBridge.Json.Basic

namespace ScrapeBridge.Json

def text? : Json → Option String
  | .string s => s
  | _ => none

def float? : Json → Option Float
  | .number n => n.toFloat?
  | _ => none

def optional? (read : Json → Option α) : Json → Option (Option α)
  | .null => some none
  | j => (read j).map some

def list? (read : Json → Option α) : Json → Option (List α)
  | .array items => items.mapM read
  | _ => none

def members? : Json → Option (List (String × Json))
  | .object members => members.mapM fun (k, j) => k.map (·, j)
  | _ => none

def named (name : String) (members : List (String × Json)) : List Json :=
  (members.filter (·.1 = name)).map (·.2)

def atMostOne? : List Json → Option (Option Json)
  | [] => some none
  | [j] => some (some j)
  | _ => none

/-- The value of each of a record's fields, if it is given. A field that is given twice is refused,
and so is a list with more items than there are fields; members that are no fields are ignored. -/
def fields? (names : List String) : Json → Option (List (Option Json))
  | .array items =>
    if items.length ≤ names.length then
      some (items.map some ++ List.replicate (names.length - items.length) none)
    else none
  | j => do
    let members ← members? j
    names.mapM fun name => atMostOne? (named name members)

def orDefault (default : α) (read : Json → Option α) : Option Json → Option α
  | none => some default
  | some j => read j

end ScrapeBridge.Json
