import ScrapeBridge.Message
import ScrapeBridge.Proofs.Json.Record

namespace ScrapeBridge.Collectd

open Json

/-- What a field of a record has to be, so that the record can be read. -/
inductive FieldKind where
  | values
  | texts
  | number
  | text

namespace FieldKind

def Admits (j : Json) : FieldKind → Prop
  | values => j = .null ∨ ∃ items, j = .array items ∧ ∀ i ∈ items, i = .null ∨ ∃ x, IsFloat i x
  | texts => j = .null ∨ ∃ items, j = .array items ∧ ∀ i ∈ items, ∃ s, IsText i s
  | number => ∃ x, IsFloat j x
  | text => ∃ s, IsText j s

end FieldKind

def IsValues : Json → List Float → Prop := OrNull [] (IsList (OrNull notANumber IsFloat))

def IsTexts : Json → List String → Prop := OrNull [] (IsList IsText)

namespace ValueList

def fieldKinds : List (String × FieldKind) :=
  [("values", .values), ("dstypes", .texts), ("dsnames", .texts), ("time", .number),
    ("interval", .number), ("host", .text), ("plugin", .text), ("plugin_instance", .text),
    ("type", .text), ("type_instance", .text)]

/-- Every field that the record gives is of its kind. -/
def WellShaped (members : List (String × Json)) : Prop :=
  ∀ field ∈ fieldKinds, ∀ j, (field.1, j) ∈ members → field.2.Admits j

/-- The record's fields are those of the value list; what it leaves out is empty or zero. -/
structure DescribedBy (v : ValueList) (members : List (String × Json)) : Prop where
  values : Field "values" IsValues [] members v.values
  dataTypes : Field "dstypes" IsTexts [] members v.dataTypes
  dataNames : Field "dsnames" IsTexts [] members v.dataNames
  time : Field "time" IsFloat 0 members v.time
  interval : Field "interval" IsFloat 0 members v.interval
  host : Field "host" IsText "" members v.host
  plugin : Field "plugin" IsText "" members v.plugin
  pluginInstance : Field "plugin_instance" IsText "" members v.pluginInstance
  type : Field "type" IsText "" members v.type
  typeInstance : Field "type_instance" IsText "" members v.typeInstance

end ValueList

theorem isNaN_notANumber : notANumber.isNaN = true := by decide

theorem texts?_eq_some_iff (j : Json) (l : List String) : texts? j = some l ↔ IsTexts j l := by
  have htexts : texts? j = (optional? (list? text?) j).map (·.getD []) := by
    unfold texts?
    cases optional? (list? text?) j <;> rfl
  rw [htexts]
  exact optional?_eq_some_iff (list?_eq_some_iff text?_eq_some_iff) rfl [] j l

theorem values?_eq_some_iff (j : Json) (l : List Float) : values? j = some l ↔ IsValues j l := by
  let value? (i : Json) : Option Float := (optional? float? i).map (·.getD notANumber)
  have hvalues : values? j = (optional? (list? value?) j).map (·.getD []) := by
    cases j with
    | array items =>
      have hitems : list? value? (.array items) =
          (list? (optional? float?) (.array items)).map (List.map (·.getD notANumber)) :=
        (map_mapM (optional? float?) _ items).symm
      simp only [values?, optional?, hitems]
      cases list? (optional? float?) (.array items) <;> rfl
    | _ => rfl
  rw [hvalues]
  have hvalue : ∀ i x, value? i = some x ↔ OrNull notANumber IsFloat i x :=
    optional?_eq_some_iff float?_eq_some_iff rfl notANumber
  exact optional?_eq_some_iff (list?_eq_some_iff hvalue) rfl [] j l

namespace ValueList

def ofFields? (given : String → Option Json) : Option ValueList := do
  return {
    values := ← orDefault [] values? (given "values")
    dataTypes := ← orDefault [] texts? (given "dstypes")
    dataNames := ← orDefault [] texts? (given "dsnames")
    time := ← orDefault 0 float? (given "time")
    interval := ← orDefault 0 float? (given "interval")
    host := ← orDefault "" text? (given "host")
    plugin := ← orDefault "" text? (given "plugin")
    pluginInstance := ← orDefault "" text? (given "plugin_instance")
    type := ← orDefault "" text? (given "type")
    typeInstance := ← orDefault "" text? (given "type_instance") }

variable {members members' : List (String × Json)} {v : ValueList}

theorem ofJson?_ofMembers (h : NoRepeats fieldNames members) :
    ofJson? (ofMembers members) = ofFields? (given? fieldNames members) := by
  rw [ofJson?, fields?_ofMembers h]
  rfl

theorem ofFields?_eq_some_iff {given : String → Option Json} : ofFields? given = some v ↔
    orDefault [] values? (given "values") = some v.values ∧
    orDefault [] texts? (given "dstypes") = some v.dataTypes ∧
    orDefault [] texts? (given "dsnames") = some v.dataNames ∧
    orDefault 0 float? (given "time") = some v.time ∧
    orDefault 0 float? (given "interval") = some v.interval ∧
    orDefault "" text? (given "host") = some v.host ∧
    orDefault "" text? (given "plugin") = some v.plugin ∧
    orDefault "" text? (given "plugin_instance") = some v.pluginInstance ∧
    orDefault "" text? (given "type") = some v.type ∧
    orDefault "" text? (given "type_instance") = some v.typeInstance := by
  simp only [ofFields?, Option.bind_eq_bind, Option.bind_eq_some_iff, Option.pure_def,
    Option.some.injEq]
  constructor
  · rintro ⟨_, h₁, _, h₂, _, h₃, _, h₄, _, h₅, _, h₆, _, h₇, _, h₈, _, h₉, _, h₁₀, rfl⟩
    exact ⟨h₁, h₂, h₃, h₄, h₅, h₆, h₇, h₈, h₉, h₁₀⟩
  · rintro ⟨h₁, h₂, h₃, h₄, h₅, h₆, h₇, h₈, h₉, h₁₀⟩
    exact ⟨_, h₁, _, h₂, _, h₃, _, h₄, _, h₅, _, h₆, _, h₇, _, h₈, _, h₉, _, h₁₀, rfl⟩

theorem ofJson?_eq_some_iff (h : NoRepeats fieldNames members) :
    ofJson? (ofMembers members) = some v ↔ v.DescribedBy members := by
  rw [ofJson?_ofMembers h, ofFields?_eq_some_iff,
    orDefault_given? h (by decide) values?_eq_some_iff,
    orDefault_given? h (by decide) texts?_eq_some_iff,
    orDefault_given? h (by decide) texts?_eq_some_iff,
    orDefault_given? h (by decide) float?_eq_some_iff,
    orDefault_given? h (by decide) float?_eq_some_iff,
    orDefault_given? h (by decide) text?_eq_some_iff,
    orDefault_given? h (by decide) text?_eq_some_iff,
    orDefault_given? h (by decide) text?_eq_some_iff,
    orDefault_given? h (by decide) text?_eq_some_iff,
    orDefault_given? h (by decide) text?_eq_some_iff]
  constructor
  · rintro ⟨h₁, h₂, h₃, h₄, h₅, h₆, h₇, h₈, h₉, h₁₀⟩
    exact ⟨h₁, h₂, h₃, h₄, h₅, h₆, h₇, h₈, h₉, h₁₀⟩
  · rintro ⟨h₁, h₂, h₃, h₄, h₅, h₆, h₇, h₈, h₉, h₁₀⟩
    exact ⟨h₁, h₂, h₃, h₄, h₅, h₆, h₇, h₈, h₉, h₁₀⟩

theorem ofFields?_congr {given given' : String → Option Json}
    (h : ∀ name ∈ fieldNames, given name = given' name) : ofFields? given = ofFields? given' := by
  simp only [ofFields?, h "values" (by decide), h "dstypes" (by decide), h "dsnames" (by decide),
    h "time" (by decide), h "interval" (by decide), h "host" (by decide), h "plugin" (by decide),
    h "plugin_instance" (by decide), h "type" (by decide), h "type_instance" (by decide)]

theorem ofJson?_eq_of_perm (h : NoRepeats fieldNames members)
    (hperm : (known fieldNames members).Perm (known fieldNames members')) :
    ofJson? (ofMembers members') = ofJson? (ofMembers members) := by
  rw [ofJson?_ofMembers h, ofJson?_ofMembers (h.perm hperm)]
  exact ofFields?_congr fun name hname => (given?_eq_of_perm h hperm hname).symm

theorem exists_isValues_iff (j : Json) : (∃ l, IsValues j l) ↔ FieldKind.values.Admits j := by
  simp only [IsValues, exists_orNull_iff, exists_isList_iff, FieldKind.Admits]

theorem exists_isTexts_iff (j : Json) : (∃ l, IsTexts j l) ↔ FieldKind.texts.Admits j := by
  simp only [IsTexts, exists_orNull_iff, exists_isList_iff, FieldKind.Admits]

theorem admitted_iff {α : Type} (default : α) (h : NoRepeats fieldNames members) {name : String}
    (hname : name ∈ fieldNames) {R : Json → α → Prop} {kind : FieldKind}
    (hkind : ∀ j, (∃ a, R j a) ↔ kind.Admits j) :
    (∀ j, (name, j) ∈ members → kind.Admits j) ↔ ∃ a, Field name R default members a := by
  rw [exists_field_iff h hname]
  simp only [hkind]

theorem exists_describedBy_iff (h : NoRepeats fieldNames members) :
    (∃ v : ValueList, v.DescribedBy members) ↔ WellShaped members := by
  have hnumber : ∀ j, (∃ x, IsFloat j x) ↔ FieldKind.number.Admits j := fun _ => Iff.rfl
  have htext : ∀ j, (∃ s, IsText j s) ↔ FieldKind.text.Admits j := fun _ => Iff.rfl
  simp only [WellShaped, fieldKinds, List.forall_mem_cons, List.not_mem_nil, false_implies,
    implies_true, and_true]
  rw [admitted_iff [] h (by decide) exists_isValues_iff,
    admitted_iff [] h (by decide) exists_isTexts_iff,
    admitted_iff [] h (by decide) exists_isTexts_iff,
    admitted_iff 0 h (by decide) hnumber, admitted_iff 0 h (by decide) hnumber,
    admitted_iff "" h (by decide) htext, admitted_iff "" h (by decide) htext,
    admitted_iff "" h (by decide) htext, admitted_iff "" h (by decide) htext,
    admitted_iff "" h (by decide) htext]
  constructor
  · rintro ⟨v, hv⟩
    exact ⟨⟨_, hv.values⟩, ⟨_, hv.dataTypes⟩, ⟨_, hv.dataNames⟩, ⟨_, hv.time⟩, ⟨_, hv.interval⟩,
      ⟨_, hv.host⟩, ⟨_, hv.plugin⟩, ⟨_, hv.pluginInstance⟩, ⟨_, hv.type⟩, ⟨_, hv.typeInstance⟩⟩
  · rintro ⟨⟨_, h₁⟩, ⟨_, h₂⟩, ⟨_, h₃⟩, ⟨_, h₄⟩, ⟨_, h₅⟩, ⟨_, h₆⟩, ⟨_, h₇⟩, ⟨_, h₈⟩, ⟨_, h₉⟩,
      ⟨_, h₁₀⟩⟩
    exact ⟨⟨_, _, _, _, _, _, _, _, _, _⟩, h₁, h₂, h₃, h₄, h₅, h₆, h₇, h₈, h₉, h₁₀⟩

end ValueList

section

open ValueList

variable {text : List Char} {records records' : List (List (String × Json))}

theorem decode_of_read (hread : read text = some (.array (records.map ofMembers))) :
    decode text = records.mapM fun members => ofJson? (ofMembers members) := by
  rw [decode, hread]
  change (records.map ofMembers).mapM ofJson? = _
  rw [List.mapM_map]
  rfl

theorem decode_eq_some_iff (hread : read text = some (.array (records.map ofMembers)))
    (hrepeats : ∀ members ∈ records, NoRepeats fieldNames members) {values : List ValueList} :
    decode text = some values ↔
      List.Forall₂ (fun members v => v.DescribedBy members) records values := by
  rw [decode_of_read hread, mapM_eq_some_iff]
  exact forall₂_congr_of_mem fun members hmembers _ =>
    ofJson?_eq_some_iff (hrepeats members hmembers)

theorem exists_decode_iff (hread : read text = some (.array (records.map ofMembers)))
    (hrepeats : ∀ members ∈ records, NoRepeats fieldNames members) :
    (∃ values, decode text = some values) ↔ ∀ members ∈ records, WellShaped members := by
  simp only [decode_eq_some_iff hread hrepeats, exists_forall₂_iff]
  exact forall₂_congr fun members hmembers => exists_describedBy_iff (hrepeats members hmembers)

theorem decode_eq_of_perm {text' : List Char}
    (hread : read text = some (.array (records.map ofMembers)))
    (hread' : read text' = some (.array (records'.map ofMembers)))
    (hrepeats : ∀ members ∈ records, NoRepeats fieldNames members)
    (hperm : List.Forall₂ (fun members members' =>
      (known fieldNames members).Perm (known fieldNames members')) records records') :
    decode text' = decode text := by
  rw [decode_of_read hread, decode_of_read hread']
  clear hread hread'
  induction hperm with
  | nil => rfl
  | cons hfirst _ ih =>
    rw [List.forall_mem_cons] at hrepeats
    rw [List.mapM_cons, List.mapM_cons, ofJson?_eq_of_perm hrepeats.1 hfirst, ih hrepeats.2]

theorem decodeMessage_of_decode {body : List UInt8} (hbody : Utf8.decode body = .ok text) :
    decodeMessage .collectd body = match decode text with
      | some values => .ok (values.map .collectd)
      | none => .error (.malformed .collectd) := by
  rw [decodeMessage, hbody]
  rfl

theorem decodeMessage_eq_ok_iff {body : List UInt8} (hbody : Utf8.decode body = .ok text)
    {samples : List Sample} : decodeMessage .collectd body = .ok samples ↔
      ∃ values, decode text = some values ∧ samples = values.map .collectd := by
  rw [decodeMessage_of_decode hbody]
  cases decode text <;> simp [eq_comm]

theorem decodeMessage_eq_malformed_iff {body : List UInt8} (hbody : Utf8.decode body = .ok text) :
    decodeMessage .collectd body = .error (.malformed .collectd) ↔ decode text = none := by
  rw [decodeMessage_of_decode hbody]
  cases decode text <;> simp

/-- A message is read record by record, each as the value list that it describes. It is read unless
a field of some record is of the wrong kind, and then there are no samples at all. In what order the
fields of a record are, and what else it has, makes no difference. -/
theorem decode_record_by_record (hread : read text = some (.array (records.map ofMembers)))
    (hrepeats : ∀ members ∈ records, NoRepeats fieldNames members) :
    ((∃ values, decode text = some values) ↔ ∀ members ∈ records, WellShaped members) ∧
    (∀ values, decode text = some values ↔
      List.Forall₂ (fun members v => v.DescribedBy members) records values) ∧
    notANumber.isNaN = true ∧
    (∀ text' records', read text' = some (.array (records'.map ofMembers)) →
      List.Forall₂ (fun members members' =>
        (known fieldNames members).Perm (known fieldNames members')) records records' →
      decode text' = decode text) ∧
    ∀ body, Utf8.decode body = .ok text →
      (∀ samples, decodeMessage .collectd body = .ok samples ↔
        ∃ values, List.Forall₂ (fun members v => v.DescribedBy members) records values ∧
          samples = values.map .collectd) ∧
      (decodeMessage .collectd body = .error (.malformed .collectd) ↔
        ∃ members ∈ records, ¬ WellShaped members) := by
  refine ⟨exists_decode_iff hread hrepeats, fun _ => decode_eq_some_iff hread hrepeats,
    isNaN_notANumber, fun _ _ hread' => decode_eq_of_perm hread hread' hrepeats,
    fun body hbody => ⟨fun samples => ?_, ?_⟩⟩
  · rw [decodeMessage_eq_ok_iff hbody]
    simp only [decode_eq_some_iff hread hrepeats]
  · rw [decodeMessage_eq_malformed_iff hbody, Option.eq_none_iff_forall_ne_some]
    simpa only [not_exists, not_forall, exists_prop] using
      not_congr (exists_decode_iff hread hrepeats)

/-- A value without a number, and then the same fields in another order and one more. -/
theorem decode_record_of_load :
    decode "[\x7b\"values\":[2,null],\"host\":\"a\"\x7d]".toList =
      some [{ values := [2, notANumber], host := "a" }] ∧
    decode "[\x7b\"more\":\x7b\x7d,\"host\":\"a\",\"values\":[2,null]\x7d]".toList =
      decode "[\x7b\"values\":[2,null],\"host\":\"a\"\x7d]".toList := by
  let values : String × Json := ("values", .array [.number ⟨false, [2], [], 0⟩, .null])
  let host : String × Json := ("host", .string (some "a"))
  have hread : read "[\x7b\"values\":[2,null],\"host\":\"a\"\x7d]".toList =
      some (.array ([[values, host]].map ofMembers)) := by
    simp only [String.reduceToList]
    rfl
  have hread' : read "[\x7b\"more\":\x7b\x7d,\"host\":\"a\",\"values\":[2,null]\x7d]".toList =
      some (.array ([[("more", .object []), host, values]].map ofMembers)) := by
    simp only [String.reduceToList]
    rfl
  have hrepeats : ∀ members ∈ [[values, host]], NoRepeats fieldNames members := by
    rw [List.forall_mem_singleton]
    decide
  obtain ⟨-, hdecode, -, hperm, -⟩ := decode_record_by_record hread hrepeats
  constructor
  · have htwo : Numeral.toFloat? ⟨false, [2], [], 0⟩ = some 2 := by decide
    have hlist : IsValues values.2 [2, notANumber] :=
      .given (.array (.cons (.given (.number htwo)) (.cons .null .nil)))
    refine (hdecode _).mpr (.cons ?_ .nil)
    exact {
      values := .inl ⟨values.2, by simp [values], hlist⟩
      host := .inl ⟨host.2, by simp [host], .string "a"⟩
      dataTypes := .of_missing (by decide)
      dataNames := .of_missing (by decide)
      time := .of_missing (by decide)
      interval := .of_missing (by decide)
      plugin := .of_missing (by decide)
      pluginInstance := .of_missing (by decide)
      type := .of_missing (by decide)
      typeInstance := .of_missing (by decide) }
  · refine hperm _ _ hread' (.cons ?_ .nil)
    have hknown : known fieldNames [values, host] = [values, host] := rfl
    have hknown' : known fieldNames [("more", .object []), host, values] = [host, values] := rfl
    rw [hknown, hknown']
    exact (List.reverse_perm [values, host]).symm

end

end ScrapeBridge.Collectd
