import ScrapeBridge.Message
import ScrapeBridge.Proofs.Json.Text

namespace ScrapeBridge.Ceilometer

open Json

inductive IsRequest : Json → String → Prop
  | fields {j text : Json} {given : String → Option Json} {s : String}
      (h : Gives ["oslo.message"] j given) (hgiven : given "oslo.message" = some text)
      (htext : IsText text s) : IsRequest j s

/-- An envelope with the notification's text in its request, at its top, in both or in neither. -/
inductive IsEnvelope : Json → Option String → Option String → Prop
  | fields {j : Json} {given : String → Option Json} {request message : Option String}
      (h : Gives ["request", "oslo.message"] j given)
      (hrequest : Optional IsRequest (given "request") request)
      (hmessage : Optional IsText (given "oslo.message") message) : IsEnvelope j request message

/-- A message in which the notification is the text `s`. What is at the top counts only if there
is no request. -/
inductive Carries (text : List Char) (s : String) : Prop
  | request {j : Json} {message : Option String} (hread : read text = some j)
      (h : IsEnvelope j (some s) message) : Carries text s
  | message {j : Json} (hread : read text = some j) (h : IsEnvelope j none (some s)) :
      Carries text s

def Missing (given : Option Json) : Prop := given = none ∨ given = some .null

/-- What a payload must be like, objects or not: readable throughout and not nested too deeply. -/
def Bufferable (j : Json) : Prop := j.readable ∧ j.depth ≤ maxPayloadDepth

/-- A list of objects, or one object in place of a list. -/
inductive IsPayloads : Json → List (Table Json) → Prop
  | many {qs : List (List (String × Json))} (h : Bufferable (.array (qs.map ofMembers))) :
      IsPayloads (.array (qs.map ofMembers)) (qs.map Table.ofList)
  | one {q : List (String × Json)} (h : Bufferable (ofMembers q)) :
      IsPayloads (ofMembers q) [Table.ofList q]

def ofNotification (s : String) : Except DecodeError (List Sample) :=
  match (read s.toList).bind notification? with
  | some measurements => .ok (measurements.map .ceilometer)
  | none => .error (.malformed .ceilometer)

theorem requestText?_eq_some_iff (j : Json) (s : String) :
    requestText? j = some s ↔ IsRequest j s := by
  unfold requestText?
  rw [Option.bind_eq_bind, Option.bind_eq_some_iff]
  constructor
  · rintro ⟨l, hl, htext⟩
    obtain ⟨given, hgives, rfl⟩ := (fields?_eq_some_iff (by decide)).mp hl
    cases hgiven : given "oslo.message" with
    | none => simp [hgiven] at htext
    | some text =>
      simp only [List.map_cons, List.map_nil, hgiven] at htext
      exact .fields hgives hgiven ((text?_eq_some_iff text s).mp htext)
  · rintro ⟨hgives, hgiven, htext⟩
    refine ⟨_, (fields?_eq_some_iff (by decide)).mpr ⟨_, hgives, rfl⟩, ?_⟩
    simp only [List.map_cons, List.map_nil, hgiven]
    exact (text?_eq_some_iff _ s).mpr htext

theorem envelope?_of_gives {j : Json} {given : String → Option Json}
    (h : Gives ["request", "oslo.message"] j given) (o : Option String) : envelope? j = some o ↔
      ∃ request message, Optional IsRequest (given "request") request ∧
        Optional IsText (given "oslo.message") message ∧ o = request.or message := by
  have hrequest := orDefault_optional?_eq_some_iff requestText?_eq_some_iff rfl
  have hmessage := orDefault_optional?_eq_some_iff text?_eq_some_iff rfl
  have hfields := (fields?_eq_some_iff (by decide)).mpr ⟨given, h, rfl⟩
  rw [envelope?, hfields]
  simp only [List.map_cons, List.map_nil, Option.bind_eq_bind, Option.bind_some,
    Option.bind_eq_some_iff, hrequest, hmessage, Option.pure_def, Option.some.injEq]
  constructor
  · rintro ⟨request, hr, message, hm, rfl⟩
    exact ⟨request, message, hr, hm, rfl⟩
  · rintro ⟨request, message, hr, hm, rfl⟩
    exact ⟨request, hr, message, hm, rfl⟩

theorem envelope?_of_isEnvelope {j : Json} {request message : Option String}
    (h : IsEnvelope j request message) : envelope? j = some (request.or message) := by
  obtain ⟨hgives, hrequest, hmessage⟩ := h
  exact (envelope?_of_gives hgives _).mpr ⟨request, message, hrequest, hmessage, rfl⟩

theorem optional_none_iff {α : Type} {R : Json → α → Prop} {given : Option Json} :
    Optional R given none ↔ Missing given := by
  constructor
  · intro h
    cases h with
    | absent => exact .inl rfl
    | null => exact .inr rfl
  · rintro (rfl | rfl)
    · exact .absent
    · exact .null

theorem envelope?_eq_empty_iff {j : Json} {given : String → Option Json}
    (h : Gives ["request", "oslo.message"] j given) :
    envelope? j = some none ↔ Missing (given "request") ∧ Missing (given "oslo.message") := by
  rw [envelope?_of_gives h]
  simp only [eq_comm (a := none), Option.or_eq_none_iff]
  constructor
  · rintro ⟨_, _, hrequest, hmessage, rfl, rfl⟩
    exact ⟨optional_none_iff.mp hrequest, optional_none_iff.mp hmessage⟩
  · rintro ⟨hrequest, hmessage⟩
    exact ⟨none, none, optional_none_iff.mpr hrequest, optional_none_iff.mpr hmessage, rfl, rfl⟩

theorem payload?_eq_some_iff {j : Json} {q : Table Json} :
    payload? j = some q ↔ ∃ members, j = ofMembers members ∧ Table.ofList members = q := by
  rw [payload?, Option.map_eq_some_iff]
  simp only [members?_eq_some_iff]

theorem mapM_payload?_eq_some_iff {items : List Json} {payloads : List (Table Json)} :
    items.mapM payload? = some payloads ↔
      ∃ qs : List (List (String × Json)), items = qs.map ofMembers ∧
        payloads = qs.map Table.ofList := by
  rw [mapM_eq_some_iff]
  simp only [payload?_eq_some_iff]
  constructor
  · intro h
    induction h with
    | nil => exact ⟨[], rfl, rfl⟩
    | cons hfirst _ ih =>
      obtain ⟨q, rfl, rfl⟩ := hfirst
      obtain ⟨qs, rfl, rfl⟩ := ih
      exact ⟨q :: qs, rfl, rfl⟩
  · rintro ⟨qs, rfl, rfl⟩
    rw [List.forall₂_map_left_iff, List.forall₂_map_right_iff]
    exact List.forall₂_same.mpr fun q _ => ⟨q, rfl, rfl⟩

theorem payloads?_eq_some_iff (j : Json) (payloads : List (Table Json)) :
    payloads? j = some payloads ↔ IsPayloads j payloads := by
  constructor
  · intro h
    unfold payloads? at h
    split at h
    case isTrue hbuffer =>
      split at h
      · obtain ⟨qs, rfl, rfl⟩ := mapM_payload?_eq_some_iff.mp h
        exact .many hbuffer
      · obtain ⟨q, hq, rfl⟩ := Option.map_eq_some_iff.mp h
        obtain ⟨members, rfl, rfl⟩ := payload?_eq_some_iff.mp hq
        exact .one hbuffer
    case isFalse => cases h
  · intro h
    cases h with
    | many hbuffer =>
      exact (if_pos hbuffer).trans (mapM_payload?_eq_some_iff.mpr ⟨_, rfl, rfl⟩)
    | @one q hbuffer =>
      have hq : payload? (ofMembers q) = some (Table.ofList q) :=
        payload?_eq_some_iff.mpr ⟨q, rfl, rfl⟩
      exact (if_pos hbuffer).trans (congrArg (Option.map ([·])) hq)

theorem notification?_eq_some_iff {members : List (String × Json)}
    (h : NoRepeats ["publisher_id", "payload"] members) {measurements : List Measurement} :
    notification? (ofMembers members) = some measurements ↔
      ∃ p payloads, Field "publisher_id" IsText "" members p ∧
        Field "payload" IsPayloads [] members payloads ∧
        measurements = payloads.map (⟨p, ·⟩) := by
  have hnotification : notification? (ofMembers members) = do
      let p ← orDefault "" Json.text? (given? ["publisher_id", "payload"] members "publisher_id")
      let payloads ← orDefault [] payloads? (given? ["publisher_id", "payload"] members "payload")
      return payloads.map (⟨p, ·⟩) := by
    rw [notification?, fields?_ofMembers h]
    rfl
  rw [hnotification]
  simp only [Option.bind_eq_bind, Option.bind_eq_some_iff, Option.pure_def, Option.some.injEq,
    orDefault_given? h (show "publisher_id" ∈ _ by decide) text?_eq_some_iff,
    orDefault_given? h (show "payload" ∈ _ by decide) payloads?_eq_some_iff]
  constructor
  · rintro ⟨p, hp, payloads, hpayloads, rfl⟩
    exact ⟨p, payloads, hp, hpayloads, rfl⟩
  · rintro ⟨p, payloads, hp, hpayloads, rfl⟩
    exact ⟨p, hp, payloads, hpayloads, rfl⟩

section

variable {text text' : List Char} {s s' : String} {j : Json}

theorem samplesOfText_of_read (hread : read text = some j) :
    samplesOfText text .ceilometer =
      match envelope? j with
      | some (some s) => ofNotification s
      | some none => .error .emptyEnvelope
      | none => .error (.malformed .ceilometer) := by
  rw [samplesOfText, decode, hread, Option.bind_eq_bind, Option.bind_some]
  cases envelope? j with
  | none => rfl
  | some o =>
    cases o with
    | none => rfl
    | some s =>
      simp only [Option.bind_eq_bind, Option.bind_some, ofNotification]
      cases read s.toList with
      | none => rfl
      | some inner => cases h : notification? inner <;> simp [h]

/-- The outcome of a message depends on the text of the notification only. -/
theorem samplesOfText_of_carries (h : Carries text s) :
    samplesOfText text .ceilometer = ofNotification s := by
  cases h with
  | request hread h => rw [samplesOfText_of_read hread, envelope?_of_isEnvelope h, Option.some_or]
  | message hread h => rw [samplesOfText_of_read hread, envelope?_of_isEnvelope h, Option.none_or]

theorem ofNotification_ne_emptyEnvelope (s : String) :
    ofNotification s ≠ .error .emptyEnvelope := by
  unfold ofNotification
  split <;> simp

theorem samplesOfText_eq_emptyEnvelope_iff {given : String → Option Json}
    (hread : read text = some j) (h : Gives ["request", "oslo.message"] j given) :
    samplesOfText text .ceilometer = .error .emptyEnvelope ↔
      Missing (given "request") ∧ Missing (given "oslo.message") := by
  rw [← envelope?_eq_empty_iff h, samplesOfText_of_read hread]
  split
  case h_1 s henvelope => simp [henvelope, ofNotification_ne_emptyEnvelope s]
  case h_2 henvelope => simp [henvelope]
  case h_3 henvelope => simp [henvelope]

def messageText (w : List Char) : List Char := objectText [("oslo.message".toList, quote w)]

def requestText (w : List Char) : List Char := objectText [("request".toList, messageText w)]

def nullRequestText (w : List Char) : List Char :=
  objectText [("request".toList, ['n', 'u', 'l', 'l']), ("oslo.message".toList, quote w)]

theorem readsMember_message {w : List Char} (h : Spells s.toList w) :
    ReadsMember ("oslo.message".toList, quote w) ("oslo.message", .string (some s)) := by
  have hquote := reads_quote h
  rw [String.ofList_toList] at hquote
  exact .mk (spells_self (by simp)) hquote

theorem isRequest_message (s : String) :
    IsRequest (ofMembers [("oslo.message", .string (some s))]) s :=
  .fields (.object (by simp [NoRepeats, known])) (by simp [given?, known, Table.lookup]) (.string s)

theorem carries_messageText {w : List Char} (h : Spells s.toList w) :
    Carries (messageText w) s := by
  have hreads := reads_objectText (.cons (readsMember_message h) .nil)
  refine .message hreads.read (.fields (.object ?_) ?_ ?_)
  · simp [NoRepeats, known]
  · exact .absent
  · exact .given (.string s)

theorem carries_nullRequestText {w : List Char} (h : Spells s.toList w) :
    Carries (nullRequestText w) s := by
  have hnull : ReadsMember ("request".toList, ['n', 'u', 'l', 'l']) ("request", .null) :=
    .mk (spells_self (by simp)) reads_null
  have hreads := reads_objectText (.cons hnull (.cons (readsMember_message h) .nil))
  refine .message hreads.read (.fields (.object ?_) ?_ ?_)
  · simp [NoRepeats, known]
  · exact .null
  · exact .given (.string s)

theorem carries_requestText {w : List Char} (h : Spells s.toList w) :
    Carries (requestText w) s := by
  have hrequest : ReadsMember ("request".toList, messageText w)
      ("request", ofMembers [("oslo.message", .string (some s))]) :=
    .mk (spells_self (by simp)) (reads_objectText (.cons (readsMember_message h) .nil))
  have hreads := reads_objectText (.cons hrequest .nil)
  have henvelope : IsEnvelope (ofMembers [("request", ofMembers [("oslo.message",
      .string (some s))])]) (some s) none := by
    refine .fields (.object ?_) (.given (isRequest_message s)) .absent
    simp [NoRepeats, known]
  exact .request hreads.read henvelope

end

section

variable {text : List Char} {s s' : String} {members members' : List (String × Json)}
  {samples : List Sample}

theorem ofNotification_eq_malformed_iff : ofNotification s = .error (.malformed .ceilometer) ↔
    ∀ samples, ofNotification s ≠ .ok samples := by
  unfold ofNotification
  split <;> simp

theorem ofNotification_congr
    (h : ∀ samples, ofNotification s = .ok samples ↔ ofNotification s' = .ok samples) :
    ofNotification s = ofNotification s' := by
  by_cases hmalformed : ∀ samples, ofNotification s ≠ .ok samples
  · rw [ofNotification_eq_malformed_iff.mpr hmalformed, eq_comm, ofNotification_eq_malformed_iff]
    exact fun samples => mt (h samples).mpr (hmalformed samples)
  · obtain ⟨samples, hsamples⟩ := not_forall_not.mp hmalformed
    rw [hsamples, (h samples).mp hsamples]

theorem ofNotification_eq_ok_iff (hread : read s.toList = some (ofMembers members))
    (h : NoRepeats ["publisher_id", "payload"] members) : ofNotification s = .ok samples ↔
      ∃ p payloads, Field "publisher_id" IsText "" members p ∧
        Field "payload" IsPayloads [] members payloads ∧
        samples = payloads.map fun q => .ceilometer ⟨p, q⟩ := by
  have hok : ofNotification s = .ok samples ↔ ∃ measurements,
      notification? (ofMembers members) = some measurements ∧
        samples = measurements.map .ceilometer := by
    rw [ofNotification, hread, Option.bind_some]
    split
    case h_1 h => simp [h, eq_comm]
    case h_2 h => simp [h]
  rw [hok]
  simp only [notification?_eq_some_iff h]
  constructor
  · rintro ⟨_, ⟨p, payloads, hp, hpayloads, rfl⟩, rfl⟩
    exact ⟨p, payloads, hp, hpayloads, List.map_map⟩
  · rintro ⟨p, payloads, hp, hpayloads, rfl⟩
    exact ⟨_, ⟨p, payloads, hp, hpayloads, rfl⟩, List.map_map.symm⟩

theorem isPayloads_singleton {q : List (String × Json)}
    (hdepth : (ofMembers q).depth < maxPayloadDepth) (payloads : List (Table Json)) :
    IsPayloads (.array [ofMembers q]) payloads ↔ IsPayloads (ofMembers q) payloads := by
  -- The list is one level deeper than its item, which is why the bound on the item is strict.
  have hbufferable : Bufferable (.array [ofMembers q]) ↔ Bufferable (ofMembers q) := by
    simp [Bufferable, readable, readable.readableItems, depth, depth.depthOfItems]
    omega
  have hsame : payloads? (.array [ofMembers q]) = payloads? (ofMembers q) := by
    by_cases h : Bufferable (ofMembers q)
    · have hone := (payloads?_eq_some_iff _ _).mpr (.one h)
      have hlist : IsPayloads (.array ([q].map ofMembers)) ([q].map Table.ofList) :=
        .many (hbufferable.mpr h)
      exact ((payloads?_eq_some_iff _ _).mpr hlist).trans hone.symm
    · exact (if_neg (mt hbufferable.mp h)).trans (if_neg h).symm
  rw [← payloads?_eq_some_iff, hsame, payloads?_eq_some_iff]

theorem ofNotification_of_not_object (hread : read s.toList = some (ofMembers members))
    (h : NoRepeats ["publisher_id", "payload"] members) {items : List Json} {i : Json}
    (hitems : ("payload", .array items) ∈ members) (hi : i ∈ items) (hne : ∀ q, i ≠ ofMembers q) :
    ofNotification s = .error (.malformed .ceilometer) := by
  rw [ofNotification_eq_malformed_iff]
  -- A list that is read is made of objects, and the item is in the list.
  intro samples hsamples
  obtain ⟨p, payloads, -, hpayloads, -⟩ := (ofNotification_eq_ok_iff hread h).mp hsamples
  rw [field_iff_of_mem h (by decide) hitems] at hpayloads
  cases hpayloads with
  | many =>
    obtain ⟨q, -, hq⟩ := List.mem_map.mp hi
    exact hne q hq.symm

theorem ofNotification_singleton (hread : read s.toList = some (ofMembers members))
    (hread' : read s'.toList = some (ofMembers members'))
    (h : NoRepeats ["publisher_id", "payload"] members)
    (h' : NoRepeats ["publisher_id", "payload"] members')
    (hpublisher : ∀ p, Field "publisher_id" IsText "" members p ↔
      Field "publisher_id" IsText "" members' p) {q : List (String × Json)}
    (hq : ("payload", ofMembers q) ∈ members) (hq' : ("payload", .array [ofMembers q]) ∈ members')
    (hdepth : (ofMembers q).depth < maxPayloadDepth) : ofNotification s = ofNotification s' := by
  apply ofNotification_congr
  intro samples
  rw [ofNotification_eq_ok_iff hread h, ofNotification_eq_ok_iff hread' h']
  simp only [hpublisher, field_iff_of_mem h (show "payload" ∈ _ by decide) hq,
    field_iff_of_mem h' (show "payload" ∈ _ by decide) hq', isPayloads_singleton hdepth]

/-- Envelopes are transparent: messages that carry the same text have the same outcome, wherever
and however it is written. Without a text the envelope is empty. -/
theorem envelopes_transparent (s : String) :
    Spells s.toList (s.toList.flatMap escape) ∧
    (∀ w, Spells s.toList w → Carries (requestText w) s ∧ Carries (messageText w) s ∧
      Carries (nullRequestText w) s) ∧
    (∀ text text', Carries text s → Carries text' s →
      samplesOfText text .ceilometer = samplesOfText text' .ceilometer) ∧
    (∀ text j given, read text = some j → Gives ["request", "oslo.message"] j given →
      (samplesOfText text .ceilometer = .error .emptyEnvelope ↔
        Missing (given "request") ∧ Missing (given "oslo.message"))) ∧
    ∀ text members, Carries text s → read s.toList = some (ofMembers members) →
      NoRepeats ["publisher_id", "payload"] members →
      (∀ samples, samplesOfText text .ceilometer = .ok samples ↔
        ∃ p payloads, Field "publisher_id" IsText "" members p ∧
          Field "payload" IsPayloads [] members payloads ∧
          samples = payloads.map fun q => .ceilometer ⟨p, q⟩) ∧
      (∀ items i, ("payload", .array items) ∈ members → i ∈ items → (∀ q, i ≠ ofMembers q) →
        samplesOfText text .ceilometer = .error (.malformed .ceilometer)) ∧
      ∀ text' s' members' q, Carries text' s' → read s'.toList = some (ofMembers members') →
        NoRepeats ["publisher_id", "payload"] members' →
        (∀ p, Field "publisher_id" IsText "" members p ↔
          Field "publisher_id" IsText "" members' p) →
        ("payload", ofMembers q) ∈ members → ("payload", .array [ofMembers q]) ∈ members' →
        (ofMembers q).depth < maxPayloadDepth →
        samplesOfText text .ceilometer = samplesOfText text' .ceilometer := by
  refine ⟨spells_flatMap_escape _, fun w hw => ⟨carries_requestText hw, carries_messageText hw,
    carries_nullRequestText hw⟩, fun text text' h h' => ?_, fun text j given => ?_,
    fun text members hcarries hread h => ?_⟩
  · rw [samplesOfText_of_carries h, samplesOfText_of_carries h']
  · exact samplesOfText_eq_emptyEnvelope_iff
  · rw [samplesOfText_of_carries hcarries]
    refine ⟨fun samples => ofNotification_eq_ok_iff hread h, fun items i hitems hi hne =>
      ofNotification_of_not_object hread h hitems hi hne,
      fun text' s' members' q hcarries' hread' h' hpublisher hq hq' hdepth => ?_⟩
    rw [samplesOfText_of_carries hcarries']
    exact ofNotification_singleton hread hread' h h' hpublisher hq hq' hdepth

/-- Two payloads, without and with a member, from a publisher that is not named. -/
theorem samplesOfText_of_two_payloads :
    samplesOfText ("\x7b\"request\":\x7b\"oslo.message\":\"\x7b" ++
        "\\\"payload\\\":[\x7b\x7d,\x7b\\\"a\\\":null\x7d]\x7d\"\x7d\x7d").toList .ceilometer =
      .ok [.ceilometer ⟨"", Table.ofList []⟩, .ceilometer ⟨"", Table.ofList [("a", .null)]⟩] := by
  let s := "\x7b\"payload\":[\x7b\x7d,\x7b\"a\":null\x7d]\x7d"
  let qs : List (List (String × Json)) := [[], [("a", .null)]]
  have htext : ("\x7b\"request\":\x7b\"oslo.message\":\"\x7b" ++
        "\\\"payload\\\":[\x7b\x7d,\x7b\\\"a\\\":null\x7d]\x7d\"\x7d\x7d").toList =
      requestText (s.toList.flatMap escape) := by
    simp only [s, String.reduceToList]
    rfl
  have hread : read s.toList = some (ofMembers [("payload", .array (qs.map ofMembers))]) := by
    simp only [s, String.reduceToList]
    rfl
  obtain ⟨hspells, hforms, -, -, hnotification⟩ := envelopes_transparent s
  obtain ⟨hrequest, -⟩ := hforms _ hspells
  obtain ⟨hok, -⟩ := hnotification _ _ hrequest hread (by decide)
  rw [htext, hok]
  refine ⟨"", qs.map Table.ofList, .of_missing (by decide), .inl ⟨_, by simp, .many ?_⟩, rfl⟩
  exact ⟨by decide, by decide⟩

end

end ScrapeBridge.Ceilometer
