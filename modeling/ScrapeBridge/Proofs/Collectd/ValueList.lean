import ScrapeBridge.Collectd.ValueList
import ScrapeBridge.Proofs.Name
import ScrapeBridge.Proofs.Table

namespace ScrapeBridge.Collectd.ValueList

variable {v w : ValueList}

def instances (v : ValueList) : List String := [v.pluginInstance, v.typeInstance].filter (· ≠ "")

theorem itemKey_eq (v : ValueList) : v.itemKey = v.identity ++ joined v.instances := by
  unfold itemKey instances
  by_cases hp : v.pluginInstance = "" <;> by_cases ht : v.typeInstance = "" <;>
    simp [hp, ht, joined, String.isEmpty_iff, String.append_assoc]

def ownLabels (plugin : String) : List String → Labels
  | [] => ∅
  | [x] => Table.insert ∅ plugin x
  | x :: y :: _ => (Table.insert ∅ plugin x).insert "type" y

theorem labels_eq (v : ValueList) :
    v.labels = (((ownLabels (labelName v.plugin) v.instances).insertIfNew (labelName v.plugin)
      "base").insertIfNew "type" "base").insert "instance" v.host := by
  unfold labels instances
  by_cases hp : v.pluginInstance = "" <;> by_cases ht : v.typeInstance = "" <;>
    simp [hp, ht, ownLabels, String.isEmpty_iff]

def labelValue (plugin : String) : List String → String
  | [] => "base"
  | [x] => x
  | x :: y :: _ => if plugin = "type" then y else x

theorem get?_ownLabels (plugin : String) (l : List String) :
    ((ownLabels plugin l).get? plugin).getD "base" = labelValue plugin l := by
  rcases l with _ | ⟨x, _ | ⟨y, l⟩⟩
  · rfl
  · simp [ownLabels, labelValue]
  · by_cases h : plugin = "type" <;> simp [ownLabels, labelValue, Table.get?_insert, h, eq_comm]

theorem eq_of_get?_ownLabels {plugin key value : String} {l : List String}
    (h : (ownLabels plugin l).get? key = some value) : key = plugin ∨ key = "type" := by
  rcases l with _ | ⟨x, _ | ⟨y, l⟩⟩
  · cases h
  · rcases Table.of_get?_insert h with hkey | hnone
    · exact .inl hkey
    · cases hnone
  · rcases Table.of_get?_insert h with hkey | hone
    · exact .inr hkey
    · rcases Table.of_get?_insert hone with hkey | hnone
      · exact .inl hkey
      · cases hnone

theorem get?_labels (hplugin : labelName v.plugin ≠ "instance") :
    v.labels.get? (labelName v.plugin) = some (labelValue (labelName v.plugin) v.instances) := by
  rw [labels_eq, Table.get?_insert, if_neg hplugin.symm, Table.get?_insertIfNew]
  by_cases htype : "type" = labelName v.plugin
  · rw [if_pos htype, htype, Table.get?_insertIfNew, if_pos rfl, get?_ownLabels, Option.getD_some]
  · rw [if_neg htype, Table.get?_insertIfNew, if_pos rfl, get?_ownLabels]

theorem eq_of_get?_labels {key value : String} (h : v.labels.get? key = some value) :
    key = labelName v.plugin ∨ key = "type" ∨ key = "instance" := by
  rw [labels_eq] at h
  rcases Table.of_get?_insert h with hkey | h
  · exact .inr (.inr hkey)
  · rcases Table.of_get?_insertIfNew h with hkey | h
    · exact .inr (.inl hkey)
    · rcases Table.of_get?_insertIfNew h with hkey | h
      · exact .inl hkey
      · exact (eq_of_get?_ownLabels h).imp_right .inl

theorem get?_labels_instance (v : ValueList) : v.labels.get? "instance" = some v.host := by
  rw [labels_eq, Table.get?_insert_self]

def typeLabel (v : ValueList) : String :=
  if labelName v.plugin = "type" then labelValue "type" v.instances
  else v.instances[1]?.getD "base"

def ownLabel? (v : ValueList) : Option (String × String) :=
  if labelName v.plugin ∈ ["type", "instance"] then none
  else some (labelName v.plugin, labelValue (labelName v.plugin) v.instances)

theorem get?_ownLabels_type {plugin : String} (h : plugin ≠ "type") (l : List String) :
    ((ownLabels plugin l).get? "type").getD "base" = l[1]?.getD "base" := by
  rcases l with _ | ⟨x, _ | ⟨y, l⟩⟩
  · rfl
  · simp [ownLabels, Table.get?_insert, h]
  · simp [ownLabels]

theorem get?_labels_type (v : ValueList) : v.labels.get? "type" = some v.typeLabel := by
  rw [labels_eq, Table.get?_insert, if_neg (by decide), Table.get?_insertIfNew, if_pos rfl,
    Table.get?_insertIfNew, typeLabel]
  by_cases h : labelName v.plugin = "type"
  · rw [if_pos h, if_pos h, h, get?_ownLabels, Option.getD_some]
  · rw [if_neg h, if_neg h, get?_ownLabels_type h]

theorem ownLabel?_eq_some (v : ValueList) (key value : String) :
    v.ownLabel? = some (key, value) ↔
      key ∉ ["type", "instance"] ∧ v.labels.get? key = some value := by
  unfold ownLabel?
  constructor
  · intro h
    split at h
    case isTrue => cases h
    case isFalse hown =>
      cases h
      exact ⟨hown, get?_labels fun hplugin => hown (by simp [hplugin])⟩
  · rintro ⟨hkey, hvalue⟩
    rcases eq_of_get?_labels hvalue with rfl | rfl | rfl
    · have hinstance : labelName v.plugin ≠ "instance" := fun h => hkey (by simp [h])
      rw [get?_labels hinstance] at hvalue
      cases hvalue
      rw [if_neg hkey]
    · exact absurd (.head _) hkey
    · exact absurd (.tail _ (.head _)) hkey

theorem labels_eq_iff : v.labels = w.labels ↔
    v.host = w.host ∧ v.typeLabel = w.typeLabel ∧ v.ownLabel? = w.ownLabel? := by
  constructor
  · intro h
    have hinstance := v.get?_labels_instance
    have htype := v.get?_labels_type
    rw [h, get?_labels_instance] at hinstance
    rw [h, get?_labels_type] at htype
    refine ⟨(Option.some.inj hinstance).symm, (Option.some.inj htype).symm, ?_⟩
    apply Option.ext
    rintro ⟨key, value⟩
    rw [ownLabel?_eq_some, ownLabel?_eq_some, h]
  · rintro ⟨hhost, htype, hown⟩
    apply Table.ext_get?
    intro key
    by_cases hfixed : key ∈ ["type", "instance"]
    · simp only [List.mem_cons, List.not_mem_nil, or_false] at hfixed
      rcases hfixed with rfl | rfl
      · rw [get?_labels_type, get?_labels_type, htype]
      · rw [get?_labels_instance, get?_labels_instance, hhost]
    · apply Option.ext
      intro value
      have hv := v.ownLabel?_eq_some key value
      have hw := w.ownLabel?_eq_some key value
      rw [and_iff_right hfixed] at hv hw
      rw [← hv, ← hw, hown]

theorem isSome_get?_plugin (v : ValueList) : (v.labels.get? (labelName v.plugin)).isSome := by
  by_cases h : labelName v.plugin = "instance"
  · rw [h, get?_labels_instance]
    rfl
  · rw [get?_labels h]
    rfl

theorem labelName_eq_of_labels (hlabels : v.labels = w.labels)
    (hv : labelName v.plugin ≠ "instance") (hw : labelName w.plugin ≠ "instance") :
    labelName v.plugin = labelName w.plugin := by
  have hinw := get?_labels hv
  have hinv := get?_labels hw
  rw [hlabels] at hinw
  rw [← hlabels] at hinv
  rcases eq_of_get?_labels hinw with heq | heq | heq
  · exact heq
  · rcases eq_of_get?_labels hinv with heq' | heq' | heq'
    · exact heq'.symm
    · rw [heq, heq']
    · exact absurd heq' hw
  · exact absurd heq hv

theorem identity_cases (v : ValueList) :
    v.type = v.plugin ∧ v.identity = v.plugin ∨
      v.type ≠ v.plugin ∧ v.identity = v.plugin ++ "_" ++ v.type := by
  unfold identity
  by_cases h : v.plugin = v.type
  · exact .inl ⟨h.symm, (if_pos h).trans h.symm⟩
  · exact .inr ⟨fun heq => h heq.symm, if_neg h⟩

theorem prefix_identity (v : ValueList) : v.plugin.toList <+: v.identity.toList := by
  rcases v.identity_cases with ⟨-, h⟩ | ⟨-, h⟩
  · exact h ▸ List.prefix_rfl
  · rw [h, String.append_assoc, String.toList_append]
    exact List.prefix_append _ _

theorem head_identity (h : v.plugin = "") : v.identity.toList.head?.getD '_' = '_' := by
  rcases v.identity_cases with ⟨-, hidentity⟩ | ⟨-, hidentity⟩
  · rw [hidentity, h]
    rfl
  · rw [hidentity, h, String.append_assoc, String.toList_append, String.toList_append]
    rfl

theorem plugin_eq_of_labelName (hidentity : v.identity = w.identity)
    (h : labelName v.plugin = labelName w.plugin) : v.plugin = w.plugin := by
  refine eq_of_labelName v.prefix_identity (hidentity ▸ w.prefix_identity) ?_ h
  rintro (hempty | hempty)
  · exact head_identity hempty
  · rw [hidentity]
    exact head_identity hempty

theorem type_eq_of_plugin (hidentity : v.identity = w.identity) (h : v.plugin = w.plugin) :
    v.type = w.type := by
  have hlength := congrArg String.length hidentity
  have hunderscore : "_".length = 1 := rfl
  rcases v.identity_cases with ⟨hv, hv'⟩ | ⟨hv, hv'⟩ <;>
    rcases w.identity_cases with ⟨hw, hw'⟩ | ⟨hw, hw'⟩
  · rw [hv, hw, h]
  · rw [hv', hw', h, String.length_append, String.length_append] at hlength
    omega
  · rw [hv', hw', h, String.length_append, String.length_append] at hlength
    omega
  · rw [hv', hw', h] at hidentity
    exact (String.append_right_inj _).mp hidentity

theorem length_instances_le (v : ValueList) : v.instances.length ≤ 2 :=
  List.length_filter_le _ _

theorem length_joined_cons (s : String) (l : List String) :
    (joined (s :: l)).length = s.length + (joined l).length + 1 := by
  have hunderscore : "_".length = 1 := rfl
  rw [joined, String.length_append, String.length_append]
  omega

theorem joined_cons_ne (s : String) (l : List String) : joined (s :: l) ≠ joined [] := by
  intro h
  have hlength := congrArg String.length h
  rw [length_joined_cons] at hlength
  cases hlength

theorem joined_singleton_ne (plugin x y : String) :
    joined [labelValue plugin [x, y]] ≠ joined [x, y] := by
  intro h
  have hlength := congrArg String.length h
  rw [length_joined_cons, length_joined_cons, length_joined_cons, labelValue] at hlength
  split at hlength <;> omega

theorem eq_of_joined_pair {plugin x y x' y' : String} (h : joined [x, y] = joined [x', y'])
    (hvalue : labelValue plugin [x, y] = labelValue plugin [x', y']) : x = x' ∧ y = y' := by
  simp only [joined, String.append_empty] at h
  by_cases hplugin : plugin = "type"
  · simp only [labelValue, if_pos hplugin] at hvalue
    subst hvalue
    have hfront := (String.append_left_inj _).mp h
    exact ⟨by simpa using hfront, rfl⟩
  · simp only [labelValue, if_neg hplugin] at hvalue
    subst hvalue
    exact ⟨rfl, by simpa using h⟩

/-- Instances that read the same after the identity are the same if the plugin's label shows the
same one of them. -/
theorem eq_of_joined {plugin : String} {l l' : List String} (hl : l.length ≤ 2)
    (hl' : l'.length ≤ 2) (h : joined l = joined l')
    (hvalue : labelValue plugin l = labelValue plugin l') : l = l' := by
  cases l with
  | nil =>
    cases l' with
    | nil => rfl
    | cons x' l' => exact absurd h.symm (joined_cons_ne x' l')
  | cons x l =>
    cases l' with
    | nil => exact absurd h (joined_cons_ne x l)
    | cons x' l' =>
      rcases l with _ | ⟨y, _ | ⟨z, l⟩⟩ <;> rcases l' with _ | ⟨y', _ | ⟨z', l'⟩⟩
      case nil.nil => exact congrArg (fun s => [s]) hvalue
      case nil.cons.nil =>
        obtain rfl : x = labelValue plugin [x', y'] := hvalue
        exact absurd h (joined_singleton_ne plugin x' y')
      case cons.nil.nil =>
        obtain rfl : labelValue plugin [x, y] = x' := hvalue
        exact absurd h.symm (joined_singleton_ne plugin x y)
      case cons.nil.cons.nil =>
        obtain ⟨rfl, rfl⟩ := eq_of_joined_pair h hvalue
        rfl
      all_goals simp at hl hl'

theorem instances_eq_of_labels (hplugin : labelName v.plugin = labelName w.plugin)
    (hv : labelName v.plugin ≠ "instance") (hlabels : v.labels = w.labels)
    (hjoined : joined v.instances = joined w.instances) : v.instances = w.instances := by
  have hvalue := get?_labels hv
  rw [hlabels, hplugin, get?_labels (hplugin ▸ hv), Option.some.injEq] at hvalue
  exact eq_of_joined v.length_instances_le w.length_instances_le hjoined hvalue.symm

theorem labels_eq_of_parts (hhost : v.host = w.host) (hplugin : v.plugin = w.plugin)
    (hinstances : v.instances = w.instances) : v.labels = w.labels := by
  rw [labels_eq, labels_eq, hhost, hplugin, hinstances]

theorem identity_eq_of_parts (hplugin : v.plugin = w.plugin) (htype : v.type = w.type) :
    v.identity = w.identity := by
  rw [identity, identity, hplugin, htype]

def nameTail (v : ValueList) (i : Nat) : String :=
  (if v.dataName i = "value" then "" else "_" ++ v.dataName i) ++
    if v.kind? i = some .counter then "_total" else ""

theorem metricName_eq (v : ValueList) (i : Nat) :
    v.metricName i = ScrapeBridge.metricName ("collectd_" ++ v.identity ++ v.nameTail i) := by
  rw [metricName, nameTail, String.append_assoc]

theorem metricName_source (v : ValueList) (i : Nat) :
    v.metricName i = "collectd_" ++ ScrapeBridge.metricName (v.identity ++ v.nameTail i) := by
  rw [metricName_eq, String.append_assoc, metricName_append,
    metricName_of_clean (s := "collectd_") (by decide)]

theorem metricName_eq_iff {i j : Nat} : v.metricName i = w.metricName j ↔
    ReadsAlike (v.identity ++ v.nameTail i) (w.identity ++ w.nameTail j) := by
  rw [metricName_source, metricName_source, String.append_right_inj,
    ScrapeBridge.metricName_eq_iff]

theorem metricName_eq_iff_nameTail {i j : Nat} :
    v.metricName i = v.metricName j ↔ ReadsAlike (v.nameTail i) (v.nameTail j) := by
  rw [metricName_source, metricName_source, metricName_append, metricName_append,
    String.append_right_inj, String.append_right_inj, ScrapeBridge.metricName_eq_iff]

theorem nameTail_eq {i : Nat} (hname : v.dataName i = w.dataName i)
    (htype : v.dataType i = w.dataType i) : v.nameTail i = w.nameTail i := by
  rw [nameTail, nameTail, kind?, kind?, hname, htype]

theorem length_identity_eq {i : Nat} (hname : v.dataName i = w.dataName i)
    (htype : v.dataType i = w.dataType i) (h : v.metricName i = w.metricName i) :
    v.identity.length = w.identity.length := by
  have hlength := congrArg String.length h
  rw [metricName_eq, metricName_eq, ScrapeBridge.metricName, ScrapeBridge.metricName,
    String.length_map, String.length_map, nameTail_eq hname htype] at hlength
  simp only [String.length_append] at hlength
  omega

theorem parts_eq_of_labels (hkey : v.itemKey = w.itemKey) (hlabels : v.labels = w.labels)
    (hlength : v.identity.length = w.identity.length) (hv : v.plugin ≠ "instance")
    (hw : w.plugin ≠ "instance") :
    v.plugin = w.plugin ∧ v.type = w.type ∧ v.instances = w.instances := by
  have hinstance : ∀ u : ValueList, u.plugin ≠ "instance" → labelName u.plugin ≠ "instance" :=
    fun u hu heq => hu (eq_of_labelName_eq heq (by decide) (by decide))
  rw [itemKey_eq, itemKey_eq] at hkey
  -- The lengths cut both keys behind the identity; what cuts the identity is the plugin's label, and
  -- what cuts the rest is the instance that this label holds.
  obtain ⟨hidentity, hjoined⟩ := append_inj_of_length hkey hlength
  have hlabel := labelName_eq_of_labels hlabels (hinstance v hv) (hinstance w hw)
  have hplugin := plugin_eq_of_labelName hidentity hlabel
  exact ⟨hplugin, type_eq_of_plugin hidentity hplugin,
    instances_eq_of_labels hlabel (hinstance v hv) hlabels hjoined⟩

theorem reading?_eq_some {useTimestamp : Bool} {i : Nat} {r : Reading} :
    v.reading? useTimestamp i = some r ↔
      ∃ kind value, v.kind? i = some kind ∧ v.values[i]? = some value ∧
        r = ⟨v.metricName i, v.help i, kind, v.labels, value,
          if useTimestamp then some v.timestampMs else none⟩ := by
  simp only [reading?, bind, pure, Option.bind_eq_some_iff, Option.some.injEq]
  constructor
  · rintro ⟨kind, hkind, value, hvalue, rfl⟩
    exact ⟨kind, value, hkind, hvalue, rfl⟩
  · rintro ⟨kind, value, hkind, hvalue, rfl⟩
    exact ⟨kind, hkind, value, hvalue, rfl⟩

def Exposes (v : ValueList) (i : Nat) : Prop := i < v.values.length ∧ (v.kind? i).isSome

theorem exposes_iff (useTimestamp : Bool) {i : Nat} :
    v.Exposes i ↔ ∃ r, v.reading? useTimestamp i = some r := by
  simp only [reading?_eq_some]
  constructor
  · rintro ⟨hlength, hkind⟩
    obtain ⟨kind, hkind⟩ := Option.isSome_iff_exists.mp hkind
    exact ⟨_, kind, _, hkind, List.getElem?_eq_getElem hlength, rfl⟩
  · rintro ⟨r, kind, value, hkind, hvalue, -⟩
    exact ⟨(List.getElem?_eq_some_iff.mp hvalue).1, hkind ▸ rfl⟩

end ScrapeBridge.Collectd.ValueList
