import ScrapeBridge.Bus.Endpoint
import ScrapeBridge.Proofs.Text.Cut

namespace ScrapeBridge.Endpoint

open Text

def schemeMark : List Char := [':', '/', '/']

/-- The scheme of a URL in lower case, and the rest of the URL. -/
inductive HasScheme (t : List Char) : List Char → List Char → Prop
  | given {name rest : List Char} (h : Cuts schemeMark t name rest) :
    HasScheme t (name.map Char.toLower) rest
  | missing (h : ¬ schemeMark <:+: t) : HasScheme t ['a', 'm', 'q', 'p'] t

/-- A URL of a known scheme. Something stands before the first slash of its rest, and something
other than slashes after it. -/
def IsUrl (t : List Char) : Prop :=
  ∃ scheme : Scheme, ∃ rest, HasScheme t scheme.name.toList rest ∧
    ∃ host path, Cuts ['/'] rest host path ∧ host ≠ [] ∧ ∃ c ∈ path, c ≠ '/'

/-- What a URL is read as. -/
structure Reads (t : List Char) (e : Endpoint) : Prop where
  url_eq : e.url.toList = t
  source : ∃ rest path, HasScheme t e.scheme.name.toList rest ∧
    Cuts ['/'] rest e.authority.toList path ∧ IsTrim (· = '/') path e.address.toList
  authority_ne : e.authority.toList ≠ []
  address_ne : e.address.toList ≠ []

/-- What is wrong with a text that is no URL: of several faults the first in this order. -/
inductive Refuses (t : List Char) : EndpointError → Prop
  | empty (ht : t = []) : Refuses t .empty
  | scheme (ht : t ≠ []) {name rest : List Char} (hscheme : HasScheme t name rest)
    (hname : ∀ scheme : Scheme, scheme.name.toList ≠ name) :
    Refuses t (.unsupportedScheme (String.ofList name) (String.ofList t))
  | host (ht : t ≠ []) {scheme : Scheme} {rest : List Char}
    (hscheme : HasScheme t scheme.name.toList rest) (hhost : ∀ c ∈ rest.head?, c = '/') :
    Refuses t (.noHost (String.ofList t))
  | address (ht : t ≠ []) {scheme : Scheme} {rest : List Char}
    (hscheme : HasScheme t scheme.name.toList rest) (hhost : ∃ c ∈ rest.head?, c ≠ '/')
    (haddress : ∀ host path, Cuts ['/'] rest host path → ∀ c ∈ path, c = '/') :
    Refuses t (.noAddress (String.ofList t))

variable {t name rest host path : List Char} {scheme : Scheme} {url : String} {e : Endpoint}
  {x : EndpointError}

theorem splitScheme_eq (h : HasScheme t name rest) : splitScheme t = (name, rest) := by
  rw [splitScheme]
  cases h with
  | given h =>
    rw [show cut? [':', '/', '/'] t = _ from cut?_eq_some_iff.mpr h]
  | missing h =>
    rw [show cut? [':', '/', '/'] t = _ from cut?_eq_none_iff.mpr h]

theorem exists_hasScheme (t : List Char) : ∃ name rest, HasScheme t name rest := by
  cases hcut : cut? schemeMark t with
  | none => exact ⟨_, t, .missing (cut?_eq_none_iff.mp hcut)⟩
  | some parts => exact ⟨_, parts.2, .given (cut?_eq_some_iff.mp hcut)⟩

theorem scheme?_eq_some_iff : scheme? name = some scheme ↔ scheme.name.toList = name := by
  constructor
  · intro h
    rw [scheme?] at h
    split_ifs at h with hamqp hamqps
    · cases h
      exact hamqp.symm
    · cases h
      exact hamqps.symm
  · rintro rfl
    cases scheme <;> rfl

theorem splitAuthority_cases (rest : List Char) : ∃ host path, splitAuthority rest = (host, path) ∧
    (Cuts ['/'] rest host path ∨ '/' ∉ rest ∧ host = rest ∧ path = []) := by
  rw [splitAuthority]
  cases hcut : cut? ['/'] rest with
  | none =>
    rw [cut?_eq_none_iff, List.singleton_infix_iff] at hcut
    exact ⟨rest, [], rfl, .inr ⟨hcut, rfl, rfl⟩⟩
  | some parts => exact ⟨parts.1, parts.2, rfl, .inl (cut?_eq_some_iff.mp hcut)⟩

theorem splitAuthority_eq (h : Cuts ['/'] rest host path) : splitAuthority rest = (host, path) := by
  rw [splitAuthority, cut?_eq_some_iff.mpr h]
  rfl

theorem cuts_of_splitAuthority (h : splitAuthority rest = (host, path)) (hpath : path ≠ []) :
    Cuts ['/'] rest host path := by
  obtain ⟨_, _, hsplit, hcut⟩ := splitAuthority_cases rest
  cases h.symm.trans hsplit
  exact hcut.resolve_right fun hnone => hpath hnone.2.2

theorem host_eq_nil_iff (h : splitAuthority rest = (host, path)) :
    host = [] ↔ ∀ c ∈ rest.head?, c = '/' := by
  obtain ⟨_, _, hsplit, hcut⟩ := splitAuthority_cases rest
  cases h.symm.trans hsplit
  constructor
  · rintro rfl c hc
    rcases hcut with hcut | ⟨-, rfl, -⟩
    · rw [(cuts_singleton_iff.mp hcut).1] at hc
      exact (Option.some.inj hc).symm
    · cases hc
  · intro hhead
    have hfirst : host.head? = rest.head? ∨ host = [] := by
      rcases hcut with hcut | ⟨-, rfl, -⟩
      · rw [(cuts_singleton_iff.mp hcut).1]
        cases host with
        | nil => exact .inr rfl
        | cons c host => exact .inl rfl
      · exact .inl rfl
    have hslash : '/' ∉ host := by
      rcases hcut with hcut | ⟨hslash, rfl, -⟩
      · exact (cuts_singleton_iff.mp hcut).2
      · exact hslash
    cases host with
    | nil => rfl
    | cons c host =>
      have hc : c = '/' := hhead c (hfirst.resolve_right (by simp) ▸ rfl)
      exact absurd (by rw [hc]; exact .head _) hslash

theorem trim_path_eq_nil_iff (h : splitAuthority rest = (host, path)) :
    trim (· = '/') path = [] ↔ ∀ host path, Cuts ['/'] rest host path → ∀ c ∈ path, c = '/' := by
  rw [trim_eq_nil_iff]
  simp only [decide_eq_true_eq]
  constructor
  · intro hall host' path' hcut
    cases h.symm.trans (splitAuthority_eq hcut)
    exact hall
  · intro hall c hc
    exact hall host path (cuts_of_splitAuthority h (List.ne_nil_of_mem hc)) c hc

theorem parse_eq (ht : trim isBlank url.toList ≠ [])
    (hscheme : HasScheme (trim isBlank url.toList) name rest)
    (hrest : splitAuthority rest = (host, path)) :
    parse url =
      let address := trim (· = '/') path
      let t := String.ofList (trim isBlank url.toList)
      match scheme? name with
      | none => .error (.unsupportedScheme (String.ofList name) t)
      | some scheme =>
        if host.isEmpty then .error (.noHost t)
        else if address.isEmpty then .error (.noAddress t)
        else .ok ⟨t, scheme, String.ofList host, String.ofList address⟩ := by
  have hne : ¬ (trim isBlank url.toList).isEmpty = true := by rwa [List.isEmpty_iff]
  rw [parse, if_neg hne, splitScheme_eq hscheme]
  dsimp only
  cases scheme? name <;> simp only [hrest]

theorem Reads.ne_nil (h : Reads t e) : t ≠ [] := by
  rintro rfl
  obtain ⟨rest, path, hscheme, hrest, -⟩ := h.source
  generalize e.scheme.name.toList = name at hscheme
  cases hscheme with
  | given hscheme => simpa [schemeMark] using hscheme.parts
  | missing => simpa using hrest.parts

theorem parse_of_reads (h : Reads (trim isBlank url.toList) e) : parse url = .ok e := by
  obtain ⟨rest, path, hscheme, hrest, haddress⟩ := h.source
  rw [parse_eq h.ne_nil hscheme (splitAuthority_eq hrest), scheme?_eq_some_iff.mpr rfl]
  dsimp only
  rw [if_neg (by rw [List.isEmpty_iff]; exact h.authority_ne), haddress.trim_eq,
    if_neg (by rw [List.isEmpty_iff]; exact h.address_ne), ← h.url_eq, String.ofList_toList,
    String.ofList_toList, String.ofList_toList]

theorem parse_of_refuses (h : Refuses (trim isBlank url.toList) x) : parse url = .error x := by
  cases h with
  | empty ht =>
    rw [parse, ht]
    rfl
  | @scheme ht name rest hscheme hname =>
    have hunknown : scheme? name = none := Option.eq_none_iff_forall_ne_some.mpr fun scheme hsome =>
      hname scheme (scheme?_eq_some_iff.mp hsome)
    obtain ⟨host, path, hrest, -⟩ := splitAuthority_cases rest
    rw [parse_eq ht hscheme hrest, hunknown]
  | @host ht scheme rest hscheme hhost =>
    obtain ⟨host, path, hrest, -⟩ := splitAuthority_cases rest
    rw [parse_eq ht hscheme hrest, scheme?_eq_some_iff.mpr rfl, (host_eq_nil_iff hrest).mpr hhost]
    rfl
  | @address ht scheme rest hscheme hhost haddress =>
    obtain ⟨host, path, hrest, -⟩ := splitAuthority_cases rest
    have hne : host ≠ [] := by
      rw [Ne, host_eq_nil_iff hrest]
      obtain ⟨c, hc, hslash⟩ := hhost
      exact fun hall => hslash (hall c hc)
    rw [parse_eq ht hscheme hrest, scheme?_eq_some_iff.mpr rfl,
      (trim_path_eq_nil_iff hrest).mpr haddress]
    dsimp only
    rw [if_neg (by rwa [List.isEmpty_iff])]
    rfl

theorem exists_reads (hscheme : HasScheme t scheme.name.toList rest)
    (hrest : Cuts ['/'] rest host path) (hhost : host ≠ []) (hpath : ∃ c ∈ path, c ≠ '/') :
    ∃ e, Reads t e := by
  refine ⟨⟨String.ofList t, scheme, String.ofList host, String.ofList (trim (· = '/') path)⟩,
    String.toList_ofList, ⟨rest, path, hscheme, ?_, ?_⟩, ?_, ?_⟩
  all_goals rw [String.toList_ofList]
  · exact hrest
  · exact isTrim_trim _ _
  · exact hhost
  · rw [Ne, trim_eq_nil_iff]
    obtain ⟨c, hc, hslash⟩ := hpath
    exact fun hall => hslash (of_decide_eq_true (hall c hc))

theorem exists_reads_iff : (∃ e, Reads t e) ↔ IsUrl t := by
  constructor
  · rintro ⟨e, he⟩
    obtain ⟨rest, path, hscheme, hrest, haddress⟩ := he.source
    refine ⟨e.scheme, rest, hscheme, e.authority.toList, path, hrest, he.authority_ne, ?_⟩
    have haddress_ne := he.address_ne
    rw [← haddress.trim_eq, Ne, trim_eq_nil_iff] at haddress_ne
    simpa using haddress_ne
  · rintro ⟨scheme, rest, hscheme, host, path, hrest, hhost, hpath⟩
    exact exists_reads hscheme hrest hhost hpath

theorem reads_or_refuses (t : List Char) : (∃ e, Reads t e) ∨ ∃ x, Refuses t x := by
  by_cases ht : t = []
  · exact .inr ⟨_, .empty ht⟩
  obtain ⟨name, rest, hscheme⟩ := exists_hasScheme t
  by_cases hname : ∀ scheme : Scheme, scheme.name.toList ≠ name
  · exact .inr ⟨_, .scheme ht hscheme hname⟩
  obtain ⟨scheme, rfl⟩ : ∃ scheme : Scheme, scheme.name.toList = name := by simpa using hname
  by_cases hhost : ∀ c ∈ rest.head?, c = '/'
  · exact .inr ⟨_, .host ht hscheme hhost⟩
  by_cases haddress : ∀ host path, Cuts ['/'] rest host path → ∀ c ∈ path, c = '/'
  · exact .inr ⟨_, .address ht hscheme (by simpa using hhost) haddress⟩
  obtain ⟨host, path, hrest, hpath⟩ :
      ∃ host path, Cuts ['/'] rest host path ∧ ∃ c ∈ path, c ≠ '/' := by simpa using haddress
  rw [← host_eq_nil_iff (splitAuthority_eq hrest)] at hhost
  exact .inl (exists_reads hscheme hrest hhost hpath)

theorem parse_eq_ok_iff : parse url = .ok e ↔ Reads (trim isBlank url.toList) e := by
  refine ⟨fun h => ?_, parse_of_reads⟩
  rcases reads_or_refuses (trim isBlank url.toList) with ⟨e', he'⟩ | ⟨x, hx⟩
  · cases h.symm.trans (parse_of_reads he')
    exact he'
  · cases h.symm.trans (parse_of_refuses hx)

theorem parse_eq_error_iff : parse url = .error x ↔ Refuses (trim isBlank url.toList) x := by
  refine ⟨fun h => ?_, parse_of_refuses⟩
  rcases reads_or_refuses (trim isBlank url.toList) with ⟨e, he⟩ | ⟨x', hx'⟩
  · cases h.symm.trans (parse_of_reads he)
  · cases h.symm.trans (parse_of_refuses hx')
    exact hx'

/-- Without the blanks around it, a text is read exactly if it is a URL; what is read of it has no
slash in its authority, and none at the ends of its address. Every other text has its fault. -/
theorem parse_reads_urls (url : String) :
    ∃ t, IsTrim isBlank url.toList t ∧
      ((∃ e, parse url = .ok e) ↔ IsUrl t) ∧
      (∀ e, parse url = .ok e ↔ Reads t e) ∧
      (∀ e, parse url = .ok e → '/' ∉ e.authority.toList ∧ e.address ≠ "" ∧
        Tidy (· = '/') e.address.toList) ∧
      (∀ x, parse url = .error x ↔ Refuses t x) := by
  refine ⟨trim isBlank url.toList, isTrim_trim _ _, ?_, fun _ => parse_eq_ok_iff, fun e h => ?_,
    fun _ => parse_eq_error_iff⟩
  · simp only [parse_eq_ok_iff]
    exact exists_reads_iff
  · have hreads := parse_eq_ok_iff.mp h
    obtain ⟨rest, path, -, hrest, haddress⟩ := hreads.source
    exact ⟨(cuts_singleton_iff.mp hrest).2, mt String.toList_eq_nil_iff.mpr hreads.address_ne,
      haddress.tidy⟩

end ScrapeBridge.Endpoint
