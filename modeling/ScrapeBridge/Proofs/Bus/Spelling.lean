import ScrapeBridge.Proofs.Bus.Endpoint

namespace ScrapeBridge.Endpoint

open Text

/-- Two endpoints with the same broker and the same source address. -/
structure SameSource (e e' : Endpoint) : Prop where
  scheme_eq : e'.scheme = e.scheme
  authority_eq : e'.authority = e.authority
  address_eq : e'.address = e.address

/-- The URL made of what is dialed and what is attached to. -/
def canonicalUrl (e : Endpoint) : String := e.brokerUrl ++ "/" ++ e.address

def EndsBlank (e : Endpoint) : Prop := ∃ c ∈ e.address.toList.getLast?, isBlank c = true

def mark : Option (List Char) → List Char
  | some name => name ++ schemeMark
  | none => []

/-- What is free in writing an endpoint. -/
structure Spelling where
  scheme : Option (List Char)
  before : Nat
  after : Nat
  front : List Char
  back : List Char

namespace Spelling

def path (w : Spelling) (e : Endpoint) : List Char :=
  List.replicate w.before '/' ++ e.address.toList ++ List.replicate w.after '/'

def rest (w : Spelling) (e : Endpoint) : List Char := e.authority.toList ++ '/' :: w.path e

def core (w : Spelling) (e : Endpoint) : List Char := mark w.scheme ++ w.rest e

def url (w : Spelling) (e : Endpoint) : List Char := w.front ++ w.core e ++ w.back

/-- A spelling that says what is meant. -/
structure Fits (w : Spelling) (e : Endpoint) : Prop where
  front : ∀ c ∈ w.front, isBlank c = true
  back : ∀ c ∈ w.back, isBlank c = true
  scheme : ∀ name ∈ w.scheme, name.map Char.toLower = e.scheme.name.toList
  /-- Without its scheme the URL must not look as if it had one, or start with a blank. -/
  missing : w.scheme = none → e.scheme = .amqp ∧ ¬ schemeMark <:+: w.rest e ∧
    ∀ c ∈ e.authority.toList.head?, isBlank c = false
  /-- A blank at the end of the address needs a slash after it. -/
  kept : e.EndsBlank → w.after ≠ 0

def canonical (e : Endpoint) : Spelling := ⟨some e.scheme.name.toList, 0, 0, [], []⟩

end Spelling

/-- What is true of every endpoint that has been read. -/
structure Valid (e : Endpoint) : Prop where
  authority_ne : e.authority.toList ≠ []
  slash : '/' ∉ e.authority.toList
  address_ne : e.address.toList ≠ []
  tidy : Tidy (· = '/') e.address.toList

variable {s t name path : List Char} {url : String} {e e' : Endpoint} {w : Spelling}

theorem Reads.valid (h : Reads t e) : e.Valid := by
  obtain ⟨rest, path, -, hrest, haddress⟩ := h.source
  exact ⟨h.authority_ne, (cuts_singleton_iff.mp hrest).2, h.address_ne, haddress.tidy⟩

theorem not_endsBlank_iff : ¬ e.EndsBlank ↔ ∀ c ∈ e.address.toList.getLast?, isBlank c = false := by
  simp [EndsBlank]

theorem Valid.reads (h : e.Valid)
    (hscheme : HasScheme t e.scheme.name.toList (e.authority.toList ++ '/' :: path))
    (hpath : IsTrim (· = '/') path e.address.toList) :
    Reads t { e with url := String.ofList t } where
  url_eq := String.toList_ofList
  source := ⟨_, path, hscheme, cuts_singleton_iff.mpr ⟨rfl, h.slash⟩, hpath⟩
  authority_ne := h.authority_ne
  address_ne := h.address_ne

theorem Reads.eq_parts {host : List Char} (h : Reads t e)
    (hscheme : HasScheme t name (host ++ '/' :: path)) (hhost : '/' ∉ host) :
    e.scheme.name.toList = name ∧ e.authority.toList = host ∧
      IsTrim (· = '/') path e.address.toList := by
  obtain ⟨rest, path', hscheme', hrest, haddress⟩ := h.source
  cases (splitScheme_eq hscheme).symm.trans (splitScheme_eq hscheme')
  obtain ⟨hauthority, rfl⟩ := hrest.unique (cuts_singleton_iff.mpr ⟨rfl, hhost⟩)
  exact ⟨rfl, hauthority, haddress⟩

theorem not_isBlank_of_toLower {c : Char} (h : c.toLower = 'a') : isBlank c = false := by
  rw [Bool.eq_false_iff]
  intro hblank
  have hcapital : ¬ (65 ≤ c.toNat ∧ c.toNat ≤ 90) := by
    simp only [isBlank, Bool.or_eq_true, Bool.and_eq_true, decide_eq_true_eq, beq_iff_eq] at hblank
    omega
  have hsame : c.toLower = c := dif_neg hcapital
  rw [hsame] at h
  rw [h] at hblank
  cases hblank

theorem map_toLower_name (scheme : Scheme) :
    scheme.name.toList.map Char.toLower = scheme.name.toList := by
  cases scheme <;> rfl

theorem hasScheme_of_given {scheme : Scheme} (h : name.map Char.toLower = scheme.name.toList)
    (rest : List Char) : HasScheme (name ++ schemeMark ++ rest) scheme.name.toList rest := by
  rw [← h]
  refine .given (cuts_of_not_mem ['/', '/'] ?_ rest)
  intro hcolon
  have hlower : Char.toLower ':' ∈ name.map Char.toLower := List.mem_map_of_mem hcolon
  rw [h] at hlower
  cases scheme <;> revert hlower <;> decide

theorem head_of_given {scheme : Scheme} (h : name.map Char.toLower = scheme.name.toList)
    (l : List Char) : ∀ c ∈ (name ++ l).head?, isBlank c = false := by
  have hhead : scheme.name.toList.head? = some 'a' := by cases scheme <;> rfl
  intro c hc
  cases name with
  | nil =>
    rw [← h] at hhead
    cases hhead
  | cons d name =>
    obtain rfl := Option.some.inj hc
    rw [← h] at hhead
    exact not_isBlank_of_toLower (Option.some.inj hhead)

section

variable (h : e.Valid) (hw : w.Fits e)

include hw in
theorem Spelling.Fits.hasScheme : HasScheme (w.core e) e.scheme.name.toList (w.rest e) := by
  rw [Spelling.core]
  cases hs : w.scheme with
  | some name => exact hasScheme_of_given (hw.scheme name hs) _
  | none =>
    obtain ⟨hamqp, hmark, -⟩ := hw.missing hs
    rw [hamqp]
    exact .missing hmark

include h in
theorem Valid.isTrim_path (w : Spelling) : IsTrim (· = '/') (w.path e) e.address.toList where
  around := ⟨_, _, rfl, by simp, by simp⟩
  tidy := h.tidy

include h in
theorem Valid.getLast?_core (w : Spelling) : (w.core e).getLast? =
    (List.replicate w.after '/').getLast?.or e.address.toList.getLast? := by
  have hpath : w.path e ≠ [] := by simp [Spelling.path, h.address_ne]
  rw [Spelling.core, Spelling.rest, ← List.singleton_append, ← List.append_assoc,
    ← List.append_assoc, List.getLast?_append_of_ne_nil _ hpath, Spelling.path,
    List.append_assoc, List.getLast?_append_of_ne_nil _ (by simp [h.address_ne]),
    List.getLast?_append]

include h hw in
theorem Spelling.Fits.tidy_core : Tidy isBlank (w.core e) where
  first := by
    rw [Spelling.core]
    cases hs : w.scheme with
    | some name =>
      rw [mark, List.append_assoc]
      exact head_of_given (hw.scheme name hs) _
    | none =>
      rw [mark, List.nil_append, Spelling.rest, List.head?_append_of_ne_nil _ h.authority_ne]
      exact (hw.missing hs).2.2
  last := by
    rw [h.getLast?_core]
    cases hafter : w.after with
    | zero => exact not_endsBlank_iff.mp fun hblank => hw.kept hblank hafter
    | succ n =>
      rw [List.replicate_succ', List.getLast?_concat]
      rintro c ⟨⟩
      rfl

include h hw in
theorem Spelling.Fits.reads : Reads (w.core e) { e with url := String.ofList (w.core e) } :=
  h.reads hw.hasScheme (h.isTrim_path w)

include h hw in
theorem Spelling.Fits.isTrim : IsTrim isBlank (w.url e) (w.core e) :=
  ⟨⟨w.front, w.back, rfl, hw.front, hw.back⟩, hw.tidy_core h⟩

end

theorem eq_replicate {l : List Char} (h : ∀ c ∈ l, decide (c = '/') = true) :
    l = List.replicate l.length '/' :=
  List.eq_replicate_iff.mpr ⟨rfl, fun c hc => of_decide_eq_true (h c hc)⟩

theorem exists_mark {scheme : Scheme} {rest : List Char}
    (h : HasScheme t scheme.name.toList rest) : ∃ written : Option (List Char),
      t = mark written ++ rest ∧ (∀ name ∈ written, name.map Char.toLower = scheme.name.toList) ∧
      (written = none → scheme = .amqp ∧ ¬ schemeMark <:+: rest) := by
  generalize hname : scheme.name.toList = name at h
  cases h with
  | @given written _ hcut => exact ⟨some written, hcut.parts, by rintro _ ⟨⟩; rfl, by rintro ⟨⟩⟩
  | missing hmark =>
    refine ⟨none, rfl, by rintro _ ⟨⟩, fun _ => ⟨?_, hmark⟩⟩
    cases scheme with
    | amqp => rfl
    | amqps => simp [Scheme.name] at hname

theorem Reads.exists_spelling (h : Reads (trim isBlank s) e) :
    ∃ w : Spelling, w.Fits e ∧ s = w.url e ∧ trim isBlank s = w.core e := by
  obtain ⟨⟨front, back, hs, hfront, hback⟩, htidy⟩ := isTrim_trim isBlank s
  obtain ⟨rest, path, hscheme, hrest, ⟨before, after, hpath, hbefore, hafter⟩, -⟩ := h.source
  obtain ⟨written, hcore, hwritten, hmissing⟩ := exists_mark hscheme
  rw [eq_replicate hbefore, eq_replicate hafter] at hpath
  obtain ⟨rfl, -⟩ := cuts_singleton_iff.mp hrest
  let w : Spelling := ⟨written, before.length, after.length, front, back⟩
  have hw : trim isBlank s = w.core e := by
    rw [hcore, hpath]
    rfl
  refine ⟨w, ⟨hfront, hback, hwritten, fun hnone => ?_, fun hblank hnone => ?_⟩, ?_, hw⟩
  · obtain ⟨hamqp, hmark⟩ := hmissing hnone
    refine ⟨hamqp, by rwa [hpath] at hmark, fun c hc => htidy.first c ?_⟩
    rw [hcore, show written = none from hnone, mark, List.nil_append,
      List.head?_append_of_ne_nil _ h.authority_ne]
    exact hc
  · obtain ⟨c, hc, hblank⟩ := hblank
    have hlast := htidy.last c
    rw [hw, h.valid.getLast?_core, hnone] at hlast
    rw [hlast hc] at hblank
    cases hblank
  · rw [Spelling.url, ← hw]
    exact hs

theorem Spelling.Fits.of_sameSource (hw : w.Fits e') (hsame : e.SameSource e') :
    w.Fits e ∧ w.url e' = w.url e := by
  cases e
  cases e'
  obtain ⟨rfl, rfl, rfl⟩ := hsame
  exact ⟨⟨hw.front, hw.back, hw.scheme, hw.missing, hw.kept⟩, rfl⟩

/-- A text is read as an endpoint of a given source exactly if it is a spelling of it. -/
theorem Valid.exists_parse_iff (h : e.Valid) (url : String) :
    (∃ e', parse url = .ok e' ∧ e.SameSource e') ↔
      ∃ w : Spelling, w.Fits e ∧ url.toList = w.url e := by
  constructor
  · rintro ⟨e', hparse, hsame⟩
    obtain ⟨w, hw, hurl, -⟩ := (parse_eq_ok_iff.mp hparse).exists_spelling
    obtain ⟨hfits, heq⟩ := hw.of_sameSource hsame
    exact ⟨w, hfits, hurl.trans heq⟩
  · rintro ⟨w, hw, hurl⟩
    have htrim := (hw.isTrim h).trim_eq
    rw [← hurl] at htrim
    have hreads := hw.reads h
    refine ⟨{ e with url := String.ofList (w.core e) }, parse_eq_ok_iff.mpr ?_, rfl, rfl, rfl⟩
    rwa [htrim]

theorem toList_canonicalUrl (e : Endpoint) :
    e.canonicalUrl.toList = (Spelling.canonical e).url e := by
  simp [canonicalUrl, brokerUrl, Spelling.canonical, Spelling.url, Spelling.core, Spelling.rest,
    Spelling.path, mark, schemeMark]

theorem fits_canonical (hblank : ¬ e.EndsBlank) : (Spelling.canonical e).Fits e where
  front := by simp [Spelling.canonical]
  back := by simp [Spelling.canonical]
  scheme := by
    rintro _ ⟨⟩
    exact map_toLower_name e.scheme
  missing := by rintro ⟨⟩
  kept := fun h => absurd h hblank

theorem isTrim_canonicalUrl (e : Endpoint) :
    IsTrim isBlank e.canonicalUrl.toList (e.scheme.name.toList ++ schemeMark ++
      (e.authority.toList ++ '/' :: e.address.toList.rdropWhile isBlank)) := by
  refine ⟨⟨[], e.address.toList.rtakeWhile isBlank, ?_, by simp, ?_⟩, ?_, ?_⟩
  · rw [toList_canonicalUrl]
    simp [Spelling.canonical, Spelling.url, Spelling.core, Spelling.rest, Spelling.path, mark,
      List.rdropWhile_append_rtakeWhile]
  · exact fun c hc => List.mem_rtakeWhile_imp hc
  · rw [List.append_assoc]
    exact head_of_given (map_toLower_name e.scheme) _
  · rw [← List.singleton_append, ← List.append_assoc, ← List.append_assoc, List.getLast?_append]
    cases hlast : (e.address.toList.rdropWhile isBlank).getLast? with
    | none =>
      rw [Option.none_or, List.getLast?_concat]
      rintro c ⟨⟩
      rfl
    | some c =>
      rintro _ ⟨⟩
      exact getLast?_rdropWhile isBlank _ c hlast

theorem Valid.not_endsBlank (h : e.Valid) (hparse : parse e.canonicalUrl = .ok e')
    (hsame : e.SameSource e') : ¬ e.EndsBlank := by
  have hreads := parse_eq_ok_iff.mp hparse
  rw [(isTrim_canonicalUrl e).trim_eq] at hreads
  have hscheme := hasScheme_of_given (map_toLower_name e.scheme)
    (e.authority.toList ++ '/' :: e.address.toList.rdropWhile isBlank)
  obtain ⟨-, -, ⟨front, back, hparts, -⟩, -⟩ := hreads.eq_parts hscheme h.slash
  rw [hsame.address_eq] at hparts
  have hlength : (e.address.toList.rdropWhile isBlank).length =
      front.length + e.address.toList.length + back.length := by
    rw [hparts, List.length_append, List.length_append]
  have hwhole : e.address.toList.rdropWhile isBlank = e.address.toList :=
    (List.rdropWhile_prefix _ _).eq_of_length_le (by omega)
  rw [not_endsBlank_iff, ← hwhole]
  exact getLast?_rdropWhile isBlank _

theorem Reads.endsBlank_iff (h : Reads (trim isBlank s) e) : e.EndsBlank ↔
    ∃ front c slashes, trim isBlank s = front ++ c :: slashes ∧ isBlank c = true ∧
      slashes ≠ [] ∧ ∀ d ∈ slashes, d = '/' := by
  obtain ⟨w, hw, -, hcore⟩ := h.exists_spelling
  obtain ⟨front, hfront⟩ : ∃ front, w.core e =
      front ++ e.address.toList ++ List.replicate w.after '/' :=
    ⟨mark w.scheme ++ (e.authority.toList ++ '/' :: List.replicate w.before '/'),
      by simp [Spelling.core, Spelling.rest, Spelling.path]⟩
  rw [hcore, hfront]
  constructor
  · intro hblank
    have hafter := hw.kept hblank
    obtain ⟨c, hc, hblank⟩ := hblank
    obtain ⟨l, hl⟩ := List.getLast?_eq_some_iff.mp hc
    exact ⟨front ++ l, c, List.replicate w.after '/', by simp [hl], hblank, by simpa using hafter,
      by simp⟩
  · rintro ⟨l, c, slashes, hparts, hblank, -, hslashes⟩
    have hc : c ≠ '/' := by
      rintro rfl
      cases hblank
    have hleft : ((front ++ e.address.toList) ++ List.replicate w.after '/').rdropWhile (· = '/') =
        front ++ e.address.toList := by
      refine rdropWhile_append_tidy (by simp) ?_
      rw [List.getLast?_append_of_ne_nil _ h.valid.address_ne]
      exact h.valid.tidy.last
    have hright : ((l ++ [c]) ++ slashes).rdropWhile (· = '/') = l ++ [c] :=
      rdropWhile_append_tidy (by simpa using hslashes) (by simpa using hc)
    rw [hparts, List.append_cons, hright] at hleft
    -- Without its slashes the text ends with the address, and also with the blank.
    have hlast := congrArg List.getLast? hleft
    rw [List.getLast?_concat, List.getLast?_append_of_ne_nil _ h.valid.address_ne] at hlast
    exact ⟨c, hlast.symm, hblank⟩

/-- The URL of an endpoint reads as the endpoint again. What is dialed and attached to makes up a
URL of the same source exactly if no blank ends the address, as one does where the URL ends with
slashes after a blank. All in all the texts of one source are its spellings. -/
theorem parse_canonicalUrl_iff (h : parse url = .ok e) :
    parse e.url = .ok e ∧
      ((∃ e', parse e.canonicalUrl = .ok e' ∧ e.SameSource e') ↔ ¬ e.EndsBlank) ∧
      (e.EndsBlank ↔ ∃ front c slashes, e.url.toList = front ++ c :: slashes ∧ isBlank c = true ∧
        slashes ≠ [] ∧ ∀ d ∈ slashes, d = '/') ∧
      ∀ url', (∃ e', parse url' = .ok e' ∧ e.SameSource e') ↔
        ∃ w : Spelling, w.Fits e ∧ url'.toList = w.url e := by
  have hreads := parse_eq_ok_iff.mp h
  have hvalid := hreads.valid
  refine ⟨parse_eq_ok_iff.mpr ?_, ?_, ?_, hvalid.exists_parse_iff⟩
  · rw [hreads.url_eq, trim_trim]
    exact hreads
  · constructor
    · rintro ⟨e', hparse, hsame⟩
      exact hvalid.not_endsBlank hparse hsame
    · intro hblank
      exact (hvalid.exists_parse_iff _).mpr ⟨_, fits_canonical hblank, toList_canonicalUrl e⟩
  · rw [hreads.url_eq]
    exact hreads.endsBlank_iff

/-- Blanks, capitals and slashes that the endpoint does not keep. -/
theorem parse_canonicalUrl_of_capitals :
    ∃ e, parse " AMQP://bus:5672//a/ b// " = .ok e ∧ e.canonicalUrl = "amqp://bus:5672/a/ b" ∧
      ∃ e', parse e.canonicalUrl = .ok e' ∧ e.SameSource e' := by
  have hparse : parse " AMQP://bus:5672//a/ b// " =
      .ok ⟨"AMQP://bus:5672//a/ b//", .amqp, "bus:5672", "a/ b"⟩ := by decide
  refine ⟨_, hparse, by decide, (parse_canonicalUrl_iff hparse).2.1.mpr ?_⟩
  rintro ⟨_, ⟨⟩, hblank⟩
  cases hblank

/-- The blank between the address and the slash at the end is part of the address, and is lost
without the slash. -/
theorem parse_canonicalUrl_drops_blank :
    ∃ e, parse "amqp://bus:5672/a /" = .ok e ∧
      ¬ ∃ e', parse e.canonicalUrl = .ok e' ∧ e.SameSource e' := by
  have hparse : parse "amqp://bus:5672/a /" =
      .ok ⟨"amqp://bus:5672/a /", .amqp, "bus:5672", "a "⟩ := by decide
  refine ⟨_, hparse, ?_⟩
  rintro ⟨e', hagain, -, -, haddress⟩
  have hshort : parse "amqp://bus:5672/a " =
      .ok ⟨"amqp://bus:5672/a", .amqp, "bus:5672", "a"⟩ := by decide
  cases hagain.symm.trans hshort
  revert haddress
  decide

end ScrapeBridge.Endpoint
