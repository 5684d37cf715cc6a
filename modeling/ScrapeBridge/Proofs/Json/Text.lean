import Mathlib.Data.List.Forall2
import ScrapeBridge.Json.Reader
import ScrapeBridge.Proofs.Json.Record

namespace ScrapeBridge.Json

/-- What may stand for a character within a string: itself, a short escape, its number, or the
numbers of a surrogate pair. -/
inductive Writes : Char → List Char → Prop
  | plain {c : Char} (hlow : 0x20 ≤ c.toNat) (hquote : c ≠ '"') (hslash : c ≠ '\\') : Writes c [c]
  | short {c e : Char} (h : shortEscape? e = some c) : Writes c ['\\', e]
  | unit {c p q r s : Char} (h : unitOf? p q r s = some c.toNat) :
      Writes c ['\\', 'u', p, q, r, s]
  | pair {c p q r s p' q' r' s' : Char} {u v : Nat} (hu : unitOf? p q r s = some u)
      (hv : unitOf? p' q' r' s' = some v) (hhigh : isHighSurrogate u) (hlow : isLowSurrogate v)
      (hc : c.toNat = (u - 0xD800) * 0x400 + (v - 0xDC00) + 0x10000) :
      Writes c ['\\', 'u', p, q, r, s, '\\', 'u', p', q', r', s']

/-- One of the ways in which a string may be written, character by character. -/
inductive Spells : List Char → List Char → Prop
  | nil : Spells [] []
  | cons {c : Char} {t w ws : List Char} (h : Writes c w) (ht : Spells t ws) :
      Spells (c :: t) (w ++ ws)

def escape (c : Char) : List Char :=
  match c with
  | '"' => ['\\', '"']
  | '\\' => ['\\', '\\']
  | '\x08' => ['\\', 'b']
  | '\x0c' => ['\\', 'f']
  | '\n' => ['\\', 'n']
  | '\r' => ['\\', 'r']
  | '\t' => ['\\', 't']
  | c =>
    if c.toNat < 0x20 then
      ['\\', 'u', '0', '0', Nat.digitChar (c.toNat / 16), Nat.digitChar (c.toNat % 16)]
    else [c]

theorem unitOf?_digitChar {n : Nat} (h : n < 0x20) :
    unitOf? '0' '0' (Nat.digitChar (n / 16)) (Nat.digitChar (n % 16)) = some n := by
  revert n
  decide

theorem writes_escape (c : Char) : Writes c (escape c) := by
  unfold escape
  split
  case h_8 hquote hslash _ _ _ _ _ =>
    split
    case isTrue hlow => exact .unit (unitOf?_digitChar hlow)
    case isFalse hlow => exact .plain (by omega) hquote hslash
  all_goals exact .short rfl

theorem spells_flatMap_escape (t : List Char) : Spells t (t.flatMap escape) := by
  induction t with
  | nil => exact .nil
  | cons c t ih => exact .cons (writes_escape c) ih

theorem spells_self {t : List Char} (h : ∀ c ∈ t, 0x20 ≤ c.toNat ∧ c ≠ '"' ∧ c ≠ '\\') :
    Spells t t := by
  induction t with
  | nil => exact .nil
  | cons c t ih =>
    rw [List.forall_mem_cons] at h
    obtain ⟨⟨hlow, hquote, hslash⟩, ht⟩ := h
    exact .cons (.plain hlow hquote hslash) (ih ht)

section

variable {c : Char} (s : List Char)

theorem units_plain (hlow : 0x20 ≤ c.toNat) (hquote : c ≠ '"') (hslash : c ≠ '\\') :
    units (c :: s) = (units s).map fun (us, rest) => (c.toNat :: us, rest) := by
  have hplain : ¬ (c.toNat < 0x20 ∨ c = '\\') := by
    rintro (hlow' | hslash')
    · omega
    · exact hslash hslash'
  rw [units, if_neg hplain]
  · cases units s <;> rfl
  all_goals grind

theorem units_short {e : Char} (h : shortEscape? e = some c) :
    units ('\\' :: e :: s) = (units s).map fun (us, rest) => (c.toNat :: us, rest) := by
  have hu : e ≠ 'u' := by
    rintro rfl
    cases h
  rw [units, h]
  · cases units s <;> rfl
  all_goals grind

theorem units_unit {p q r t : Char} {u : Nat} (h : unitOf? p q r t = some u) :
    units ('\\' :: 'u' :: p :: q :: r :: t :: s) =
      (units s).map fun (us, rest) => (u :: us, rest) := by
  rw [units, h]
  cases units s <;> rfl

end

theorem isSurrogate_toNat (c : Char) :
    (isHighSurrogate c.toNat || isLowSurrogate c.toNat) = false := by
  have hvalid : Nat.isValidChar c.toNat := c.valid
  simp only [Nat.isValidChar] at hvalid
  simp only [isHighSurrogate, isLowSurrogate, Bool.or_eq_false_iff, Bool.and_eq_false_iff,
    decide_eq_false_iff_not]
  omega

theorem joinUnits_toNat (c : Char) (us : List Nat) :
    joinUnits (c.toNat :: us) = (joinUnits us).map (c :: ·) := by
  have hsurrogate := isSurrogate_toNat c
  obtain ⟨hhigh, hlow⟩ := Bool.or_eq_false_iff.mp hsurrogate
  cases us with
  | nil => simp [joinUnits, hsurrogate]
  | cons v us => simp [joinUnits, hhigh, hlow]

theorem joinUnits_pair {c : Char} {u v : Nat} (hhigh : isHighSurrogate u) (hlow : isLowSurrogate v)
    (hc : c.toNat = (u - 0xD800) * 0x400 + (v - 0xDC00) + 0x10000) (us : List Nat) :
    joinUnits (u :: v :: us) = (joinUnits us).map (c :: ·) := by
  simp [joinUnits, hhigh, hlow, ← hc]

theorem Writes.units {c : Char} {w : List Char} (h : Writes c w) : ∃ us : List Nat,
    (∀ s, Json.units (w ++ s) = (Json.units s).map fun (vs, rest) => (us ++ vs, rest)) ∧
    ∀ vs, joinUnits (us ++ vs) = (joinUnits vs).map (c :: ·) := by
  cases h with
  | plain hlow hquote hslash =>
    exact ⟨[c.toNat], fun s => units_plain s hlow hquote hslash, joinUnits_toNat c⟩
  | short h => exact ⟨[c.toNat], fun s => units_short s h, joinUnits_toNat c⟩
  | unit h => exact ⟨[c.toNat], fun s => units_unit s h, joinUnits_toNat c⟩
  | @pair _ _ _ _ _ _ _ _ u v hu hv hhigh hlow hc =>
    -- Both halves are read as units of their own; that they belong together shows only afterwards.
    refine ⟨[u, v], fun s => ?_, joinUnits_pair hhigh hlow hc⟩
    refine (units_unit _ hu).trans ?_
    refine (congrArg _ (units_unit s hv)).trans ?_
    rw [Option.map_map]
    rfl

theorem Spells.units {t w : List Char} (h : Spells t w) : ∃ us : List Nat,
    (∀ rest, Json.units (w ++ '"' :: rest) = some (us, rest)) ∧ joinUnits us = some t := by
  induction h with
  | nil => exact ⟨[], fun rest => by rw [List.nil_append, Json.units], rfl⟩
  | cons h _ ih =>
    obtain ⟨us, hus, hjoin⟩ := h.units
    obtain ⟨vs, hvs, hjoin'⟩ := ih
    refine ⟨us ++ vs, fun rest => ?_, ?_⟩
    · rw [List.append_assoc, hus, hvs, Option.map_some]
    · rw [hjoin, hjoin', Option.map_some]

/-- A string is read as the text that it spells. -/
theorem stringBody_of_spells {t w : List Char} (h : Spells t w) (rest : List Char) :
    stringBody (w ++ '"' :: rest) = some (some (String.ofList t), rest) := by
  obtain ⟨us, hus, hjoin⟩ := h.units
  simp only [stringBody, hus, hjoin, Option.bind_eq_bind, Option.bind_some, Option.map_some,
    Option.pure_def]

/-- A text that is read as a document, whatever follows it. -/
def Reads (text : List Char) (j : Json) : Prop :=
  ∀ fuel rest, text.length ≤ fuel → value (fuel + 1) (text ++ rest) = some (j, rest)

def quote (w : List Char) : List Char := '"' :: w ++ ['"']

theorem reads_null : Reads ['n', 'u', 'l', 'l'] .null := fun _ _ _ => rfl

theorem reads_quote {t w : List Char} (h : Spells t w) :
    Reads (quote w) (.string (some (String.ofList t))) := by
  intro fuel rest _
  have hbody := stringBody_of_spells h rest
  simp [quote, value, skipSpace, isSpace, hbody]

def memberText (m : List Char × List Char) : List Char := quote m.1 ++ ':' :: m.2

def membersText (m : List Char × List Char) : List (List Char × List Char) → List Char
  | [] => memberText m ++ ['\x7d']
  | m' :: ms => memberText m ++ ',' :: membersText m' ms

def objectText : List (List Char × List Char) → List Char
  | [] => ['\x7b', '\x7d']
  | m :: ms => '\x7b' :: membersText m ms

inductive ReadsMember : List Char × List Char → String × Json → Prop
  | mk {k text : List Char} {name : String} {j : Json} (hk : Spells name.toList k)
      (htext : Reads text j) : ReadsMember (k, text) (name, j)

section

variable {m : List Char × List Char} {m' : String × Json} {fuel : Nat}

theorem members_last (hm : ReadsMember m m') (hfuel : m.2.length < fuel) (rest : List Char) :
    members (fuel + 1) (memberText m ++ '\x7d' :: rest) = some ([(some m'.1, m'.2)], rest) := by
  obtain ⟨hk, htext⟩ := hm
  obtain ⟨fuel, rfl⟩ := Nat.exists_eq_add_one_of_ne_zero (Nat.ne_zero_of_lt hfuel)
  have hkey := stringBody_of_spells hk
  have hvalue := htext fuel ('\x7d' :: rest) (Nat.le_of_lt_succ hfuel)
  simp [memberText, quote, members, skipSpace, isSpace, hkey, hvalue]

theorem members_next (hm : ReadsMember m m') (hfuel : m.2.length < fuel) (rest : List Char) :
    members (fuel + 1) (memberText m ++ ',' :: rest) =
      (members fuel rest).map fun (ms, rest) => ((some m'.1, m'.2) :: ms, rest) := by
  obtain ⟨hk, htext⟩ := hm
  obtain ⟨fuel, rfl⟩ := Nat.exists_eq_add_one_of_ne_zero (Nat.ne_zero_of_lt hfuel)
  have hkey := stringBody_of_spells hk
  have hvalue := htext fuel (',' :: rest) (Nat.le_of_lt_succ hfuel)
  rw [members]
  simp [memberText, quote, skipSpace, isSpace, hkey, hvalue]
  cases members (fuel + 1) rest <;> rfl

end

theorem members_membersText {m : List Char × List Char} {m' : String × Json}
    {ms : List (List Char × List Char)} {ms' : List (String × Json)} (hm : ReadsMember m m')
    (hms : List.Forall₂ ReadsMember ms ms') (fuel : Nat) (rest : List Char)
    (hfuel : (membersText m ms).length ≤ fuel) :
    members (fuel + 1) (membersText m ms ++ rest) =
      some ((m' :: ms').map fun m => (some m.1, m.2), rest) := by
  -- Every member costs one call and is longer than that, so the fuel that is left stays enough.
  induction hms generalizing m m' fuel with
  | nil =>
    simp only [membersText, memberText, List.length_append, List.length_cons] at hfuel
    rw [membersText, List.append_assoc]
    exact members_last hm (by omega) rest
  | cons hnext _ ih =>
    simp only [membersText, memberText, List.length_append, List.length_cons] at hfuel
    obtain ⟨fuel, rfl⟩ := Nat.exists_eq_add_one_of_ne_zero (show fuel ≠ 0 by omega)
    rw [membersText, List.append_assoc, List.cons_append, members_next hm (by omega),
      ih hnext fuel (by omega), Option.map_some]
    rfl

theorem exists_membersText_eq (m : List Char × List Char) (ms : List (List Char × List Char)) :
    ∃ s, membersText m ms = '"' :: s := by
  cases ms with
  | nil => exact ⟨_, rfl⟩
  | cons => exact ⟨_, rfl⟩

/-- The text of an object is read as the object of its members. -/
theorem reads_objectText {ms : List (List Char × List Char)} {ms' : List (String × Json)}
    (h : List.Forall₂ ReadsMember ms ms') : Reads (objectText ms) (ofMembers ms') := by
  intro fuel rest hfuel
  cases h with
  | nil => rfl
  | @cons m _ ms _ hm hms =>
    rw [objectText, List.length_cons] at hfuel
    obtain ⟨fuel, rfl⟩ := Nat.exists_eq_add_one_of_ne_zero (show fuel ≠ 0 by omega)
    have hmembers := members_membersText hm hms fuel rest (by omega)
    obtain ⟨s, hs⟩ := exists_membersText_eq m ms
    rw [hs, List.cons_append] at hmembers
    rw [objectText, hs, value]
    simp [skipSpace, isSpace, hmembers, ofMembers]

theorem Reads.read {text : List Char} {j : Json} (h : Reads text j) : read text = some j := by
  have hvalue := h text.length [] (Nat.le_refl _)
  rw [List.append_nil] at hvalue
  rw [Json.read, hvalue]
  rfl

end ScrapeBridge.Json
