namespace ScrapeBridge.Yaml

structure Glyph where
  char : Char
  line : Nat
  column : Nat
  /-- How many bytes of its line are before it. -/
  offset : Nat
  deriving DecidableEq, Repr

def isBlank (c : Char) : Bool := c = ' ' || c = '\t'

def isBreak (c : Char) : Bool := c = '\n' || c = '\u2028' || c = '\u2029'

/-- Control characters other than tab and line breaks are no part of any document, and neither are
two code points at the end of the basic plane. -/
def isAllowed (c : Char) : Bool :=
  let n := c.toNat
  n = 0x09 || n = 0x0A || n = 0x0D || (0x20 ≤ n && n ≤ 0x7E) || n = 0x85 ||
    (0xA0 ≤ n && n ≤ 0xFFFD) || 0x10000 ≤ n

namespace Glyph

def listFrom (line column offset : Nat) : List Char → List Glyph
  | '\r' :: '\n' :: rest => ⟨'\n', line, column, offset⟩ :: listFrom (line + 1) 0 0 rest
  | c :: rest =>
    let c := if c = '\r' ∨ c = '\u0085' then '\n' else c
    ⟨c, line, column, offset⟩ :: if isBreak c then listFrom (line + 1) 0 0 rest
      else listFrom line (column + 1) (offset + c.utf8Size) rest
  | [] => []

def ofText? (s : List Char) : Option (List Glyph) :=
  if s.all isAllowed then some (listFrom 0 0 0 s) else none

end Glyph

def atGap : List Glyph → Bool
  | [] => true
  | g :: _ => isBlank g.char || isBreak g.char

def startsWith (c : Char) : List Glyph → Bool
  | [] => false
  | g :: _ => g.char = c

def takeChars (p : Char → Bool) (s : List Glyph) : List Char × List Glyph :=
  ((s.takeWhile fun g => p g.char).map (·.char), s.dropWhile fun g => p g.char)

def isWordChar (c : Char) : Bool := c.isAlphanum || c = '_' || c = '-'

def isRule (c : Char) : List Glyph → Bool
  | g :: h :: i :: rest => g.column = 0 && g.char = c && h.char = c && i.char = c && atGap rest
  | _ => false

def atDocumentRule (s : List Glyph) : Bool := isRule '-' s || isRule '.' s

end ScrapeBridge.Yaml
