import ScrapeBridge.Text.Digits
import ScrapeBridge.Yaml.Node

namespace ScrapeBridge.Yaml

open Text

namespace Scalar

def isNull (s : Scalar) : Bool := ["null", "Null", "NULL", "~"].contains s.text

def isPlain (s : Scalar) : Bool := s.style = .plain

def isAbsent (s : Scalar) : Bool := s.isPlain && s.text.isEmpty

def admits (s : Scalar) (tag : Tag) : Bool :=
  s.isPlain || (s.style = .literal && s.tag = some tag)

end Scalar

/-- A number without a sign or with a plus sign: decimal without leading zeros, or in another base
after a prefix for it. -/
def naturalOfText? (s : String) : Option Nat :=
  let s := match s.toList with
    | '+' :: rest => rest
    | s => s
  match s with
  | '0' :: 'x' :: rest => natural? 16 rest
  | '0' :: 'o' :: rest => natural? 8 rest
  | '0' :: 'b' :: rest => natural? 2 rest
  | '0' :: _ :: _ => none
  | s => natural? 10 s

inductive Refusal where
  | malformed
  | overflow
  deriving DecidableEq, Repr

/-- A value out of a document. The state counts how often an alias has been followed. -/
abbrev Typed := ReaderT Document (StateT Nat (Except Refusal))

namespace Typed

variable {α β : Type}

def ofDocument (read : Node → Typed α) (d : Document) : Except Refusal α :=
  (read d.root d).run' 0

def ofOption : Option α → Typed α
  | some a => return a
  | none => throw .malformed

def aliasLimit (d : Document) : Nat := 100 * d.size

def target : Node → Typed Node
  | .alias n => do
    let d ← read
    modify (· + 1)
    if aliasLimit d < (← get) then throw .malformed
    ofOption ((d.anchored.find? (·.1 = n)).map (·.2))
  | node => return node

def scalar (node : Node) : Typed Scalar := do
  match ← target node with
  | .scalar s => return s
  | _ => throw .malformed

def text (node : Node) : Typed String := do return (← scalar node).text

def natural (limit : Nat) (node : Node) : Typed Nat := do
  let s ← scalar node
  if !s.admits (Tag.core "int") then throw .malformed
  let n ← ofOption (naturalOfText? s.text)
  if n < limit then return n else throw .malformed

def bool (node : Node) : Typed Bool := do
  let s ← scalar node
  if !s.admits (Tag.core "bool") then throw .malformed
  else if ["true", "True", "TRUE"].contains s.text then return true
  else if ["false", "False", "FALSE"].contains s.text then return false
  else throw .malformed

/-- A plain null, or nothing at all, is no value. A tag makes it a value unless it is that of
nulls. -/
def optional (value : Node → Typed α) (node : Node) : Typed (Option α) := do
  let node ← target node
  match node with
  | .scalar s =>
    if s.isPlain ∧ s.tag = some (Tag.core "null") then
      if s.isNull then return none else throw .malformed
    else if s.isPlain ∧ s.tag.isNone ∧ (s.text.isEmpty ∨ s.isNull) then return none
    else return some (← value node)
  | _ => return some (← value node)

def list (item : Node → Typed α) (node : Node) : Typed (List α) := do
  match ← target node with
  | .sequence items => items.mapM item
  | .scalar s => if s.isAbsent then return [] else throw .malformed
  | _ => throw .malformed

/-- A name out of a list of choices, given as a text, or as a tag with nothing or a null after
it. -/
def choice (node : Node) : Typed String := do
  let s ← scalar node
  match s.tag >>= Tag.local? with
  | some name => if s.isPlain ∧ (s.text.isEmpty ∨ s.isNull) then return name else throw .malformed
  | none => return s.text

end Typed

structure RecordField (α : Type) where
  name : String
  read : α → Node → Typed α

namespace Typed

variable {α β : Type}

/-- Reads the fields of a record one by one. A field that is given twice is refused, and so is a key
that is no scalar; keys that are no fields are passed over with their values. -/
def fields (fs : List (RecordField α)) (given : List String) (a : α) :
    List (Node × Node) → Typed α
  | [] => return a
  | (key, value) :: rest => do
    let name ← text key
    match fs.find? (·.name = name) with
    | none => fields fs given a rest
    | some f =>
      if given.contains name then throw .malformed
      fields fs (name :: given) (← f.read a value) rest

def record (fs : List (RecordField α)) (a : α) (node : Node) : Typed α := do
  match ← target node with
  | .mapping pairs => fields fs [] a pairs
  | .scalar s => if s.isAbsent then return a else throw .malformed
  | _ => throw .malformed

end Typed

def RecordField.of {α β : Type} (name : String) (value : Node → Typed β) (put : α → β → α) :
    RecordField α :=
  ⟨name, fun a node => return put a (← value node)⟩

end ScrapeBridge.Yaml
