import ScrapeBridge.Yaml.Scalar
import ScrapeBridge.Yaml.Tag

namespace ScrapeBridge.Yaml

/-- Indentation has become tokens too: each block collection has a start and an end, and a key is
announced by a token in front of it even if only the colon after it shows that it is one. -/
inductive Token where
  | version (major minor : Nat)
  | handle (name : String) (meaning : Tag)
  | documentStart
  | documentEnd
  | blockSequenceStart
  | blockMappingStart
  | blockEnd
  | flowSequenceStart
  | flowSequenceEnd
  | flowMappingStart
  | flowMappingEnd
  | item
  | comma
  | key
  | value
  | anchor (name : String)
  | alias (name : String)
  | tag (t : WrittenTag)
  | scalar (text : String) (style : Style)
  deriving DecidableEq, Repr

/-- A place where a key may have begun. -/
structure PossibleKey where
  position : Nat
  line : Nat
  column : Nat
  offset : Nat
  required : Bool

structure Lexer where
  tokens : Array Token := #[]
  indents : List Nat := []
  /-- The possible key of the current flow collection, or of the block outside of all. -/
  possibleKey : Option PossibleKey := none
  outerKeys : List (Option PossibleKey) := []
  keyAllowed : Bool := true

namespace Lexer

def inFlow (l : Lexer) : Bool := !l.outerKeys.isEmpty

def emit (l : Lexer) (t : Token) : Lexer := { l with tokens := l.tokens.push t }

def allowKey (l : Lexer) (keyAllowed : Bool) : Lexer := { l with keyAllowed }

def dropKey? (l : Lexer) : Option Lexer :=
  if l.possibleKey.any (·.required) then none else some { l with possibleKey := none }

/-- A key is on one line and at most 1024 bytes long. -/
def isStale (g : Glyph) (k : PossibleKey) : Bool :=
  k.line < g.line || k.offset + 1024 < g.offset

def dropStale? (l : Lexer) (g : Glyph) : Option Lexer :=
  if (l.possibleKey :: l.outerKeys).any (·.any fun k => isStale g k && k.required) then none
  else
    let keep (k : Option PossibleKey) := k.filter fun k => !isStale g k
    some { l with possibleKey := keep l.possibleKey, outerKeys := l.outerKeys.map keep }

def saveKey? (l : Lexer) (g : Glyph) : Option Lexer :=
  if l.keyAllowed then do
    let l ← l.dropKey?
    let required := !l.inFlow && l.indents.head? = some g.column
    return { l with possibleKey := some ⟨l.tokens.size, g.line, g.column, g.offset, required⟩ }
  else some l

def openBlock (l : Lexer) (column position : Nat) (start : Token) : Lexer :=
  if l.inFlow ∨ l.indents.head?.any (column ≤ ·) then l
  else
    { l with
      indents := column :: l.indents
      tokens := l.tokens.insertIdxIfInBounds position start }

def closeBlocks (l : Lexer) (column : Nat) : Lexer :=
  if l.inFlow then l
  else
    let closed := l.indents.takeWhile (column < ·)
    { l with
      indents := l.indents.drop closed.length
      tokens := l.tokens ++ closed.map fun _ => Token.blockEnd }

def closeAllBlocks (l : Lexer) : Lexer :=
  if l.inFlow then l
  else { l with indents := [], tokens := l.tokens ++ l.indents.map fun _ => Token.blockEnd }

def openFlow? (l : Lexer) (g : Glyph) (t : Token) : Option Lexer := do
  let l ← l.saveKey? g
  return { l.emit t with
    possibleKey := none, outerKeys := l.possibleKey :: l.outerKeys, keyAllowed := true }

def closeFlow? (l : Lexer) (t : Token) : Option Lexer := do
  let l ← l.dropKey?
  let l := match l.outerKeys with
    | [] => l
    | k :: outer => { l with possibleKey := k, outerKeys := outer }
  return (l.emit t).allowKey false

def comma? (l : Lexer) : Option Lexer := do
  return ((← l.dropKey?).emit .comma).allowKey true

def item? (l : Lexer) (column : Nat) : Option Lexer := do
  if !l.inFlow ∧ !l.keyAllowed then failure
  let l ← (l.openBlock column l.tokens.size .blockSequenceStart).dropKey?
  return (l.emit .item).allowKey true

def key? (l : Lexer) (column : Nat) : Option Lexer := do
  if !l.inFlow ∧ !l.keyAllowed then failure
  let l ← (l.openBlock column l.tokens.size .blockMappingStart).dropKey?
  return (l.emit .key).allowKey !l.inFlow

def value? (l : Lexer) (column : Nat) : Option Lexer :=
  match l.possibleKey with
  | some k =>
    let l := { l with
      tokens := l.tokens.insertIdxIfInBounds k.position .key
      possibleKey := none }
    some (((l.openBlock k.column k.position .blockMappingStart).emit .value).allowKey false)
  | none =>
    if !l.inFlow ∧ !l.keyAllowed then none
    else
      let l := l.openBlock column l.tokens.size .blockMappingStart
      some ((l.emit .value).allowKey !l.inFlow)

def keyStart? (l : Lexer) (g : Glyph) (t : Token) (keyAllowed : Bool) : Option Lexer := do
  return ((← l.saveKey? g).emit t).allowKey keyAllowed

def block? (l : Lexer) (text : List Char) (style : Style) : Option Lexer := do
  return ((← l.dropKey?).emit (.scalar (String.ofList text) style)).allowKey true

def outside? (l : Lexer) (t : Token) : Option Lexer := do
  return ((← l.closeAllBlocks.dropKey?).emit t).allowKey false

end Lexer

def anchorName? (s : List Glyph) : Option (String × List Glyph) :=
  let (name, rest) := takeChars isWordChar s
  let ended := atGap rest || rest.head?.any fun g =>
    ['?', ':', ',', ']', '\x7d', '%', '@', '\x60'].contains g.char
  if !name.isEmpty ∧ ended then some (String.ofList name, rest) else none

def number? (s : List Glyph) : Option (Nat × List Glyph) :=
  let (ds, rest) := takeChars Char.isDigit s
  if ds.isEmpty ∨ 9 < ds.length then none
  else some (Text.ofDigits 10 (ds.filterMap Text.digit?), rest)

def version? (s : List Glyph) : Option (Token × List Glyph) := do
  let (major, rest) ← number? (skipBlanks s)
  if !startsWith '.' rest then failure
  let (minor, rest) ← number? (rest.drop 1)
  return (.version major minor, rest)

def directive? (s : List Glyph) : Option (Token × List Glyph) := do
  let (name, rest) := takeChars isWordChar s
  if !atGap rest then failure
  let (t, rest) ← match String.ofList name with
    | "YAML" => version? rest
    | "TAG" => (handleMeaning? rest).map fun ((h, tag), r) => (.handle h tag, r)
    | _ => none
  return (t, ← restOfLine? rest)

def skipToToken (l : Lexer) : List Glyph → Lexer × List Glyph
  | [] => (l, [])
  | g :: rest =>
    if g.char = ' ' ∨ (g.char = '\t' ∧ (l.inFlow ∨ !l.keyAllowed)) ∨
        (g.char = '\uFEFF' ∧ g.column = 0) then
      skipToToken l rest
    else if isBreak g.char then skipToToken (if l.inFlow then l else l.allowKey true) rest
    else (l, g :: rest)

def skipGap (fuel : Nat) (l : Lexer) (s : List Glyph) : Lexer × List Glyph :=
  let (l, s) := skipToToken l s
  match fuel with
  | 0 => (l, s)
  | fuel + 1 => if startsWith '#' s then skipGap fuel l (skipComment s) else (l, s)

def isIndicator (c : Char) : Bool :=
  ['-', '?', ':', ',', '[', ']', '\x7b', '\x7d', '#', '&', '*', '!', '|', '>', '\'', '"', '%', '@',
    '\x60'].contains c

def beginsPlain (inFlow : Bool) (g : Glyph) (rest : List Glyph) : Bool :=
  !(isBlank g.char || isIndicator g.char) ||
    (g.char = '-' && !rest.head?.any fun h => isBlank h.char) ||
    (!inFlow && (g.char = '?' || g.char = ':') && !atGap rest)

def nextToken? (l : Lexer) (g : Glyph) (rest : List Glyph) : Option (Lexer × List Glyph) :=
  let flow (f : Option Lexer) := f.map (·, rest)
  let quoted (text : Option (List Char × List Glyph)) := do
    let (text, rest) ← text
    return (← l.keyStart? g (.scalar (String.ofList text) .quoted) false, rest)
  let property (t : Option (Token × List Glyph)) := do
    let (t, rest) ← t
    return (← l.keyStart? g t false, rest)
  if g.column = 0 ∧ g.char = '%' then do
    let (t, rest) ← directive? rest
    return (← l.outside? t, rest)
  else if isRule '-' (g :: rest) then (l.outside? .documentStart).map (·, rest.drop 2)
  else if isRule '.' (g :: rest) then (l.outside? .documentEnd).map (·, rest.drop 2)
  else
    match g.char with
    | '[' => flow (l.openFlow? g .flowSequenceStart)
    | '\x7b' => flow (l.openFlow? g .flowMappingStart)
    | ']' => flow (l.closeFlow? .flowSequenceEnd)
    | '\x7d' => flow (l.closeFlow? .flowMappingEnd)
    | ',' => flow l.comma?
    | '*' => property ((anchorName? rest).map fun (name, r) => (.alias name, r))
    | '&' => property ((anchorName? rest).map fun (name, r) => (.anchor name, r))
    | '!' => property ((WrittenTag.read? l.inFlow rest).map fun (t, r) => (.tag t, r))
    | '\'' => quoted (singleQuoted .none rest)
    | '"' => quoted (doubleQuoted (rest.length + 1) .none rest)
    | c =>
      if c = '-' ∧ atGap rest then flow (l.item? g.column)
      else if c = '?' ∧ (l.inFlow ∨ atGap rest) then flow (l.key? g.column)
      else if c = ':' ∧ (l.inFlow ∨ atGap rest) then flow (l.value? g.column)
      else if (c = '|' ∨ c = '>') ∧ !l.inFlow then do
        let (text, rest) ← block (c = '|') l.indents.head? rest
        return (← l.block? text (if c = '|' then .literal else .folded), rest)
      else if beginsPlain l.inFlow g rest then do
        let (text, broken, rest) ← plain l.inFlow (l.indents.head?.elim 0 (· + 1)) (g :: rest)
        return (← l.keyStart? g (.scalar (String.ofList text) .plain) broken, rest)
      else none

structure Tokens where
  toList : List Token
  isAll : Bool

/-- The tokens before the first place where a key may have begun. No others can be relied upon until
it is known whether one has. -/
def Lexer.settled (l : Lexer) : Tokens :=
  let keys := (l.possibleKey :: l.outerKeys).filterMap id
  ⟨(l.tokens.take (keys.foldl (fun n k => min n k.position) l.tokens.size)).toList, false⟩

def Lexer.step? (l : Lexer) (g : Glyph) (rest : List Glyph) : Option (Lexer × List Glyph) := do
  let l ← l.dropStale? g
  nextToken? (l.closeBlocks g.column) g rest

/-- The tokens from here on, up to the first place where there can be none. `fuel` bounds their
number. -/
def tokensFrom (fuel : Nat) (l : Lexer) (s : List Glyph) : Tokens :=
  match fuel, s.head?.elim (some l) l.dropStale? with
  | 0, _ => l.settled
  | _, none => l.settled
  | fuel + 1, some l =>
    let (m, t) := skipGap s.length l s
    match t with
    | [] =>
      if m.possibleKey.any (·.required) then l.settled else ⟨m.closeAllBlocks.tokens.toList, true⟩
    | g :: rest =>
      match m.step? g rest with
      | some (m, rest) => tokensFrom fuel m rest
      | none => l.settled

def Tokens.ofGlyphs (s : List Glyph) : Tokens := tokensFrom (s.length + 1) {} s

end ScrapeBridge.Yaml
