import ScrapeBridge.Text.Utf8
import ScrapeBridge.Yaml.Scalar

namespace ScrapeBridge.Yaml

open Text

/-- The bytes of a tag; escapes in it stand for bytes and not for characters. -/
abbrev Tag := List UInt8

namespace Tag

def ofText (s : String) : Tag := s.toList.flatMap String.utf8EncodeChar

def core (kind : String) : Tag := ofText ("tag:yaml.org,2002:" ++ kind)

def nonSpecific : Tag := ofText "!"

def local? : Tag → Option String
  | 0x21 :: name => (Utf8.decode name).toOption.map String.ofList
  | _ => none

def followers? (b : UInt8) : Option Nat :=
  if b < 0x80 then some 0
  else if b < 0xC0 then none
  else if b < 0xE0 then some 1
  else if b < 0xF0 then some 2
  else if b < 0xF8 then some 3
  else none

def isTagChar (c : Char) : Bool :=
  isWordChar c || [';', '/', '?', ':', '@', '&', '=', '+', '$', '.', '!', '~', '*', '\'', '(',
    ')'].contains c

def isFullTagChar (c : Char) : Bool := isTagChar c || [',', '[', ']'].contains c

/-- The bytes of a tag, and what follows. A percent sign and two digits stand for a byte. Such bytes
make up whole characters: `owed` says how many are missing in the current one. -/
def bytes? (accepts : Char → Bool) (owed : Nat) : List Glyph → Option (Tag × List Glyph)
  | [] => if owed = 0 then some ([], []) else none
  | g :: rest =>
    if g.char = '%' then
      match rest with
      | high :: low :: rest => do
        let b := UInt8.ofNat (16 * (← hexDigit? high.char) + (← hexDigit? low.char))
        let owed ←
          if owed = 0 then followers? b
          else if 0x80 ≤ b ∧ b < 0xC0 then some (owed - 1)
          else none
        (bytes? accepts owed rest).map fun (bs, r) => (b :: bs, r)
      | _ => none
    else if owed ≠ 0 then none
    else if accepts g.char then
      (bytes? accepts 0 rest).map fun (bs, r) => (UInt8.ofNat g.char.toNat :: bs, r)
    else some ([], g :: rest)

def ofBytes (bs : List UInt8) : Tag := bs.takeWhile (· ≠ 0)

def read? (accepts : Char → Bool) (s : List Glyph) : Option (Tag × List Glyph) := do
  let (bs, rest) ← bytes? accepts 0 s
  if bs.isEmpty then failure
  return (ofBytes bs, rest)

end Tag

abbrev Handles := List (String × Tag)

def Handles.default : Handles := [("!", Tag.nonSpecific), ("!!", Tag.core "")]

def namedHandle? (s : List Glyph) : Option (String × List Glyph) :=
  let (name, rest) := takeChars isWordChar s
  if startsWith '!' rest then some ("!" ++ String.ofList name ++ "!", rest.drop 1) else none

structure WrittenTag where
  handle : Option String
  rest : Tag
  deriving DecidableEq, Repr

namespace WrittenTag

def resolve? (handles : Handles) (t : WrittenTag) : Option Tag :=
  match t.handle with
  | none => some t.rest
  | some h => (handles.lookup h).map (· ++ t.rest)

/-- A tag after its first exclamation mark, and what follows. An exclamation mark alone is a tag in
full. -/
def read? (inFlow : Bool) (s : List Glyph) : Option (WrittenTag × List Glyph) := do
  let (tag, rest) ←
    if startsWith '<' s then do
      let (tag, rest) ← Tag.read? Tag.isFullTagChar (s.drop 1)
      if !startsWith '>' rest then failure
      pure (⟨none, tag⟩, rest.drop 1)
    else
      match namedHandle? s with
      | some (handle, rest) => (Tag.read? Tag.isTagChar rest).map fun (tag, r) => (⟨handle, tag⟩, r)
      | none => do
        let (bs, rest) ← Tag.bytes? Tag.isTagChar 0 s
        let tag := Tag.ofBytes bs
        pure (if tag.isEmpty then ⟨none, Tag.nonSpecific⟩ else ⟨"!", tag⟩, rest)
  if atGap rest ∨ (inFlow ∧ startsWith ',' rest) then return (tag, rest) else failure

end WrittenTag

def handle? (s : List Glyph) : Option (String × List Glyph) :=
  if s.head?.any fun g => isBlank g.char then some ("!", s) else namedHandle? s

def handleMeaning? (s : List Glyph) : Option ((String × Tag) × List Glyph) := do
  let s := skipBlanks s
  if !startsWith '!' s then failure
  let (handle, rest) ← handle? (s.drop 1)
  if !rest.head?.any fun g => isBlank g.char then failure
  let (tag, rest) ← Tag.read? Tag.isFullTagChar (skipBlanks rest)
  if atGap rest then return ((handle, tag), rest) else failure

end ScrapeBridge.Yaml
