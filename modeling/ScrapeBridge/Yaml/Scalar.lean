import ScrapeBridge.Text.Digits
import ScrapeBridge.Yaml.Glyph

namespace ScrapeBridge.Yaml

open Text

inductive Style where
  | plain
  | quoted
  | literal
  | folded
  deriving DecidableEq, Repr

inductive Gap where
  | blanks (cs : List Char)
  | breaks (first : Option Char) (others : List Char)

namespace Gap

def none : Gap := blanks []

def addBlank (c : Char) : Gap → Gap
  | blanks cs => blanks (cs ++ [c])
  | breaks first others => breaks first others

def addBreak (c : Char) : Gap → Gap
  | blanks _ => breaks (some c) []
  | breaks first others => breaks first (others ++ [c])

def isBroken : Gap → Bool
  | blanks _ => false
  | breaks _ _ => true

def isEmpty : Gap → Bool
  | blanks cs => cs.isEmpty
  | breaks _ _ => false

def text : Gap → List Char
  | blanks cs => cs
  | breaks (some '\n') [] => [' ']
  | breaks (some '\n') others => others
  | breaks (some c) others => c :: others
  | breaks .none others => others

end Gap

def isFlowIndicator (c : Char) : Bool :=
  c = ',' || c = '[' || c = ']' || c = '\x7b' || c = '\x7d'

/-- A plain scalar, whether it ends in a gap with line breaks, and what follows. It ends before a
comment, before a colon with a gap after it, and before a line that is indented less than `indent`;
in a flow collection indentation does not count, and its indicators end the scalar. -/
def plainFrom (flow : Bool) (indent : Nat) (gap : Gap) :
    List Glyph → Option (List Char × Bool × List Glyph)
  | [] => some ([], gap.isBroken, [])
  | g :: rest =>
    if isBlank g.char then
      if gap.isBroken ∧ g.column < indent ∧ g.char = '\t' then none
      else plainFrom flow indent (gap.addBlank g.char) rest
    else if isBreak g.char then plainFrom flow indent (gap.addBreak g.char) rest
    else if atDocumentRule (g :: rest) ∨ (g.char = '#' ∧ !gap.isEmpty) ∨
        (!flow ∧ gap.isBroken ∧ g.column < indent) ∨ (g.char = ':' ∧ atGap rest) ∨
        (flow ∧ isFlowIndicator g.char) then
      some ([], gap.isBroken, g :: rest)
    else if flow ∧ g.char = ':' ∧
        rest.head?.any fun h => isFlowIndicator h.char || h.char = '?' then
      none
    else (plainFrom flow indent .none rest).map fun (cs, r) => (gap.text ++ g.char :: cs, r)

def plain (flow : Bool) (indent : Nat) (s : List Glyph) : Option (List Char × Bool × List Glyph) :=
  plainFrom flow indent .none s

def singleQuoted (gap : Gap) : List Glyph → Option (List Char × List Glyph)
  | [] => none
  | g :: rest =>
    if isBlank g.char then singleQuoted (gap.addBlank g.char) rest
    else if isBreak g.char then singleQuoted (gap.addBreak g.char) rest
    else if atDocumentRule (g :: rest) then none
    else if g.char = '\'' then
      match rest with
      | h :: rest =>
        if h.char = '\'' then
          (singleQuoted .none rest).map fun (cs, r) => (gap.text ++ '\'' :: cs, r)
        else some (gap.text, h :: rest)
      | [] => some (gap.text, [])
    else (singleQuoted .none rest).map fun (cs, r) => (gap.text ++ g.char :: cs, r)

def shortEscape? (c : Char) : Option Char :=
  match c with
  | '0' => some '\x00'
  | 'a' => some '\x07'
  | 'b' => some '\x08'
  | 't' => some '\t'
  | '\t' => some '\t'
  | 'n' => some '\n'
  | 'v' => some '\x0B'
  | 'f' => some '\x0C'
  | 'r' => some '\r'
  | 'e' => some '\x1B'
  | ' ' => some ' '
  | '"' => some '"'
  | '/' => some '/'
  | '\\' => some '\\'
  | 'N' => some '\u0085'
  | '_' => some '\u00A0'
  | 'L' => some '\u2028'
  | 'P' => some '\u2029'
  | _ => none

def hexWidth? (c : Char) : Option Nat :=
  match c with
  | 'x' => some 2
  | 'u' => some 4
  | 'U' => some 8
  | _ => none

def scalarValue? (n : Nat) : Option Char :=
  if n.isValidChar then some (Char.ofNat n) else none

def hexEscape? (width : Nat) (s : List Glyph) : Option (Char × List Glyph) := do
  let ds ← (s.take width).mapM fun g => hexDigit? g.char
  if ds.length = width then (scalarValue? (ofDigits 16 ds)).map (·, s.drop width) else none

def escape? : List Glyph → Option (Option Char × List Glyph)
  | [] => none
  | g :: rest =>
    if isBreak g.char then some (none, rest)
    else
      match hexWidth? g.char with
      | some width => (hexEscape? width rest).map fun (c, r) => (some c, r)
      | none => (shortEscape? g.char).map fun c => (some c, rest)

def doubleQuoted (fuel : Nat) (gap : Gap) (s : List Glyph) : Option (List Char × List Glyph) :=
  match fuel, s with
  | 0, _ => none
  | _, [] => none
  | fuel + 1, g :: rest =>
    if isBlank g.char then doubleQuoted fuel (gap.addBlank g.char) rest
    else if isBreak g.char then doubleQuoted fuel (gap.addBreak g.char) rest
    else if atDocumentRule (g :: rest) then none
    else if g.char = '"' then some (gap.text, rest)
    else if g.char = '\\' then do
      match ← escape? rest with
      | (some c, rest) =>
        (doubleQuoted fuel .none rest).map fun (cs, r) => (gap.text ++ c :: cs, r)
      | (none, rest) =>
        (doubleQuoted fuel (.breaks none []) rest).map fun (cs, r) => (gap.text ++ cs, r)
    else (doubleQuoted fuel .none rest).map fun (cs, r) => (gap.text ++ g.char :: cs, r)

inductive Chomping where
  | strip
  | clip
  | keep

def chomping? (c : Char) : Option Chomping :=
  if c = '-' then some .strip else if c = '+' then some .keep else none

def blockHeader (s : List Glyph) : Option (Chomping × Option Nat × List Glyph) :=
  let chomping (s : List Glyph) : Chomping × List Glyph :=
    match s with
    | g :: rest => ((chomping? g.char).map (·, rest)).getD (.clip, s)
    | [] => (.clip, [])
  let increment (s : List Glyph) : Option (Option Nat × List Glyph) :=
    match s with
    | g :: rest =>
      match digit? g.char with
      | some 0 => none
      | some d => some (some d, rest)
      | none => some (none, s)
    | [] => some (none, [])
  match increment s with
  | none => none
  | some (some d, rest) => let (c, rest) := chomping rest; some (c, some d, rest)
  | some (none, _) =>
    let (c, rest) := chomping s
    match c with
    | .clip => some (c, none, rest)
    | _ => (increment rest).map fun (d, rest) => (c, d, rest)

def skipBlanks (s : List Glyph) : List Glyph := s.dropWhile fun g => isBlank g.char

def skipComment (s : List Glyph) : List Glyph :=
  if startsWith '#' s then s.dropWhile fun g => !isBreak g.char else s

def restOfLine? (s : List Glyph) : Option (List Glyph) :=
  match skipComment (skipBlanks s) with
  | [] => some []
  | g :: rest => if isBreak g.char then some rest else none

/-- Empty lines at the start of a block: the largest indentation up to the first line that is not
empty, the line breaks, and what follows. A tab cannot indent. -/
def leadingLines : List Glyph → Option (Nat × List Char × List Glyph)
  | [] => some (0, [], [])
  | g :: rest =>
    if g.char = ' ' then leadingLines rest
    else if g.char = '\t' then none
    else if isBreak g.char then
      (leadingLines rest).map fun (n, breaks, r) => (max n g.column, g.char :: breaks, r)
    else some (g.column, [], g :: rest)

/-- The lines of a block that have been read so far: the break of the last one, those of the empty
lines after it, and whether it began with a blank. -/
structure BlockTail where
  last : List Char
  empty : List Char
  indented : Bool

/-- How a further line is joined. Lines are folded unless one of the two begins with a blank. -/
def BlockTail.join (t : BlockTail) (literal indented : Bool) : List Char :=
  if !literal ∧ t.last = ['\n'] ∧ !t.indented ∧ !indented then
    if t.empty.isEmpty then [' '] else t.empty
  else t.last ++ t.empty

def BlockTail.chomp (t : BlockTail) : Chomping → List Char
  | .strip => []
  | .clip => t.last
  | .keep => t.last ++ t.empty

def blockLines (literal : Bool) (chomping : Chomping) (indent : Nat) (inLine : Bool)
    (tail : BlockTail) : List Glyph → Option (List Char × List Glyph)
  | [] => some (tail.chomp chomping, [])
  | g :: rest =>
    if inLine then
      if isBreak g.char then
        blockLines literal chomping indent false { tail with last := [g.char], empty := [] } rest
      else
        (blockLines literal chomping indent true tail rest).map fun (cs, r) => (g.char :: cs, r)
    else if isBreak g.char then
      blockLines literal chomping indent false { tail with empty := tail.empty ++ [g.char] } rest
    else if g.column < indent ∧ isBlank g.char then
      if g.char = ' ' then blockLines literal chomping indent false tail rest else none
    else if g.column = indent then
      let indented := isBlank g.char
      (blockLines literal chomping indent true ⟨[], [], indented⟩ rest).map fun (cs, r) =>
        (tail.join literal indented ++ g.char :: cs, r)
    else some (tail.chomp chomping, g :: rest)

/-- A block scalar after its first indicator, inside a collection that is indented by `parent`.
Unless its indentation is given, it is that of the first line, or of an empty line before it. -/
def block (literal : Bool) (parent : Option Nat) (s : List Glyph) :
    Option (List Char × List Glyph) := do
  let (chomping, increment, rest) ← blockHeader s
  let rest ← restOfLine? rest
  match increment with
  | some n => blockLines literal chomping (parent.getD 0 + n) false ⟨[], [], false⟩ rest
  | none =>
    let (column, breaks, rest) ← leadingLines rest
    let indent := max column (parent.elim 1 (· + 1))
    blockLines literal chomping indent false ⟨[], breaks, false⟩ rest

end ScrapeBridge.Yaml
