import ScrapeBridge.Yaml.Node
import ScrapeBridge.Yaml.Token

namespace ScrapeBridge.Yaml

/-- What a reader has seen: the tokens that are left, the number that each anchor's name has now,
and the anchored nodes. An anchor is numbered by how many names there are before it, so that a name
that is used again takes the number of the next new one. -/
structure Seen where
  tokens : List Token
  names : Table Nat := ∅
  handles : Handles := Handles.default
  anchored : List (Nat × Node) := []
  isWhole : Bool

abbrev Reader := OptionT (StateM Seen)

namespace Reader

def stop : Reader Unit := modify fun s => { s with tokens := [], isWhole := false }

def attempt {α : Type} (read : Reader α) : Reader (Option α) := OptionT.mk do
  match ← read.run with
  | some a => return some (some a)
  | none => return (← stop.run).map fun _ => none

def peek? : Reader (Option Token) := do return (← get).tokens.head?

def skip : Reader Unit := modify fun s => { s with tokens := s.tokens.tail }

def next (t : Token) : Reader Bool := do
  if (← peek?) = some t then
    skip
    return true
  else return false

def expect (t : Token) : Reader Unit := do if !(← next t) then stop

def nextIn (ts : List Token) : Reader Bool := do return (← peek?).any ts.contains

def number (name : String) : Reader Nat := do
  let s ← get
  let n := s.names.entries.length
  set { s with names := s.names.insert name n }
  return n

/-- Anchors a node: its anchor's number is given, and how many nodes had been anchored before it. It
goes before those, and after the nodes inside it. -/
def anchor (place : Option (Nat × Nat)) (node : Node) : Reader Node := do
  match place with
  | some (n, before) =>
    modify fun s =>
      let inside := s.anchored.length - before
      { s with anchored := s.anchored.take inside ++ (n, node) :: s.anchored.drop inside }
  | none => pure ()
  return node

def tag? : Reader (Option Tag) := do
  match ← peek? with
  | some (.tag t) =>
    skip
    match t.resolve? (← get).handles with
    | some tag => return some tag
    | none => failure
  | _ => return none

def anchor? : Reader (Option (Nat × Nat)) := do
  match ← peek? with
  | some (.anchor name) =>
    skip
    return some (← number name, (← get).anchored.length)
  | _ => return none

def properties : Reader (Option (Nat × Nat) × Option Tag) := do
  match ← tag? with
  | some t => return (← anchor?, some t)
  | none =>
    let n ← anchor?
    return (n, ← tag?)

end Reader

open Reader

/-- A node stands in a block, in a block where the items of a sequence may stand for themselves, or
in a flow collection. -/
inductive Place where
  | block
  | mappingBlock
  | flow
  deriving DecidableEq

mutual

/-- A node. `fuel` bounds the nesting of calls; twice the number of tokens is enough, since of two
calls one takes a token. -/
def node (fuel : Nat) (place : Place) : Reader Node :=
  match fuel with
  | 0 => failure
  | fuel + 1 => do
    match ← peek? with
    | some (.alias name) =>
      skip
      match (← get).names.get? name with
      | some n => return .alias n
      | none => failure
    | _ =>
      let (n, tag) ← properties
      match ← peek? with
      | some (.scalar text style) =>
        skip
        anchor n (.scalar ⟨text, style, tag⟩)
      | some .flowSequenceStart =>
        skip
        anchor n (.sequence (← flowItems fuel true))
      | some .flowMappingStart =>
        skip
        anchor n (.mapping (← flowPairs fuel true))
      | t =>
        if t = some .item ∧ place = .mappingBlock then
          anchor n (.sequence (← items fuel))
        else if t = some .blockSequenceStart ∧ place ≠ .flow then
          skip
          let nodes ← items fuel
          expect .blockEnd
          anchor n (.sequence nodes)
        else if t = some .blockMappingStart ∧ place ≠ .flow then
          skip
          anchor n (.mapping (← blockPairs fuel))
        else if (t.isSome ∨ (← get).isWhole) ∧ (n.isSome ∨ tag.isSome) then anchor n (.absent tag)
        else failure

def optionalNode (fuel : Nat) (place : Place) (ends : List Token) : Reader Node := do
  if ← nextIn ends then return .absent else node fuel place

def pairValue (fuel : Nat) (place : Place) (ends : List Token) : Reader Node := do
  if ← next .value then return (← attempt (optionalNode fuel place ends)).getD .absent
  else return .absent

def items (fuel : Nat) : Reader (List Node) :=
  match fuel with
  | 0 => failure
  | fuel + 1 => do
    if ← next .item then
      match ← attempt (optionalNode fuel .block [.item, .key, .value, .blockEnd]) with
      | some first => return first :: (← items fuel)
      | none => return []
    else return []

def blockPairs (fuel : Nat) : Reader (List (Node × Node)) :=
  match fuel with
  | 0 => failure
  | fuel + 1 => do
    if ← next .key then
      let ends := [.key, .value, .blockEnd]
      match ← attempt (optionalNode fuel .mappingBlock ends) with
      | some key => return (key, ← pairValue fuel .mappingBlock ends) :: (← blockPairs fuel)
      | none => return []
    else
      expect .blockEnd
      return []

/-- The items of a flow sequence and its end. A single pair is a mapping of its own; where its key
is left out, the token that comes in its place is passed over. -/
def flowItems (fuel : Nat) (first : Bool) : Reader (List Node) :=
  match fuel with
  | 0 => failure
  | fuel + 1 => do
    if ← next .flowSequenceEnd then return []
    if !first then expect .comma
    if ← next .flowSequenceEnd then return []
    let ends := [.comma, .flowSequenceEnd]
    let item? ←
      if ← next .key then
        let absent ← nextIn (.value :: ends)
        if absent then skip
        match ← if absent then pure (some .absent) else attempt (node fuel .flow) with
        | some key => pure (some (.mapping [(key, ← pairValue fuel .flow ends)]))
        | none => pure (some (.mapping []))
      else attempt (node fuel .flow)
    match item? with
    | some item => return item :: (← flowItems fuel false)
    | none => return []

def flowPairs (fuel : Nat) (first : Bool) : Reader (List (Node × Node)) :=
  match fuel with
  | 0 => failure
  | fuel + 1 => do
    if ← next .flowMappingEnd then return []
    if !first then expect .comma
    if ← next .flowMappingEnd then return []
    let ends := [.comma, .flowMappingEnd]
    let keyed ← next .key
    let key? ← attempt
      (if keyed then optionalNode fuel .flow (.value :: ends) else node fuel .flow)
    match key? with
    | some key =>
      let value ← if keyed then pairValue fuel .flow ends else pure .absent
      return (key, value) :: (← flowPairs fuel false)
    | none => return []

end

/-- Directives: at most one version, which has to be known, and at most one meaning of a handle. The
handles are those that have been given a meaning so far. -/
def directives? (versionGiven : Bool) (handles : Handles) :
    List Token → Option (Handles × List Token)
  | .version major minor :: rest =>
    if versionGiven ∨ major ≠ 1 ∨ (minor ≠ 1 ∧ minor ≠ 2) then none
    else directives? true handles rest
  | .handle name meaning :: rest =>
    if handles.any (·.1 = name) then none
    else directives? versionGiven ((name, meaning) :: handles) rest
  | rest => some (handles, rest)

def prologue : Reader Bool := do
  let tokens := (← get).tokens
  let (handles, rest) ← (directives? false [] tokens).elim failure pure
  modify fun s => { s with tokens := rest, handles := handles ++ Handles.default }
  let explicit ← next .documentStart
  if explicit ∨ rest.length = tokens.length then return explicit else failure

def epilogue : List Token → List Token
  | .documentEnd :: rest => epilogue rest
  | rest => rest

def document (fuel : Nat) : Reader Node := do
  if (← get).tokens.isEmpty then return .absent
  let root ← attempt do
    let explicit ← prologue
    let empty ← nextIn [.documentStart, .documentEnd]
    let atEnd := (← peek?).isNone
    if explicit ∧ (empty ∨ atEnd) then return .absent else node fuel .block
  modify fun s => { s with tokens := epilogue s.tokens }
  if !(← get).tokens.isEmpty then stop
  return root.getD .absent

def Document.read (s : List Char) : Document :=
  let tokens := ((Glyph.ofText? s).map Tokens.ofGlyphs).getD ⟨[], false⟩
  let (root, seen) := (document (2 * tokens.toList.length + 2)).run
    { tokens := tokens.toList, isWhole := tokens.isAll }
  let root := root.getD .absent
  ⟨root, seen.anchored, seen.isWhole, root.size⟩

end ScrapeBridge.Yaml
