import Mathlib.Data.List.Forall2
import ScrapeBridge.Proofs.Ceilometer.Measurement
import ScrapeBridge.Proofs.Collectd.ValueList
import ScrapeBridge.Sample

namespace ScrapeBridge

namespace Collectd.ValueList

/-- The type of a value, if it is one that can be exposed, gives its kind. -/
inductive HasKind (v : ValueList) (i : Nat) : Kind → Prop
  | gauge (h : v.dataTypes[i]? = some "gauge") : HasKind v i .gauge
  | counter (h : v.dataTypes[i]? = some "counter") : HasKind v i .counter
  | derive (h : v.dataTypes[i]? = some "derive") : HasKind v i .counter

/-- A value that no name is given for has its index for one, or `value` where it is alone. -/
inductive HasName (v : ValueList) (i : Nat) : String → Prop
  | given {name : String} (h : v.dataNames[i]? = some name) : HasName v i name
  | single (h : v.dataNames.length ≤ i) (hone : v.values.length = 1) : HasName v i "value"
  | index (h : v.dataNames.length ≤ i) (hmany : v.values.length ≠ 1) : HasName v i (toString i)

def fullName (v : ValueList) (name : String) (kind : Kind) : String :=
  "collectd_" ++ v.identity ++ (if name = "value" then "" else "_" ++ name) ++
    match kind with
    | .gauge => ""
    | .counter => "_total"

/-- The reading of a value. -/
structure Shows (v : ValueList) (useTimestamp : Bool) (i : Nat) (r : Reading) : Prop where
  value : v.values[i]? = some r.value
  kind : v.HasKind i r.kind
  name : ∃ name, v.HasName i name ∧ r.name = ScrapeBridge.metricName (v.fullName name r.kind)
  labels : r.labels = v.labels
  time : r.timestampMs = if useTimestamp then some v.timestampMs else none

variable {v : ValueList} {i : Nat} {kind : Kind} {r : Reading} {useTimestamp : Bool}

theorem kind?_eq_some_iff : v.kind? i = some kind ↔ v.HasKind i kind := by
  rw [kind?, dataType]
  constructor
  · intro h
    cases htype : v.dataTypes[i]? with
    | none =>
      rw [htype] at h
      cases h
    | some type =>
      rw [htype, Option.getD_some] at h
      split at h <;> cases h
      · exact .gauge htype
      · exact .counter htype
      · exact .derive htype
  · intro h
    cases h with
    | gauge h | counter h | derive h =>
      rw [h]
      rfl

theorem hasName_dataName (v : ValueList) (i : Nat) : v.HasName i (v.dataName i) := by
  rw [dataName]
  cases h : v.dataNames[i]? with
  | some name => exact .given h
  | none =>
    rw [List.getElem?_eq_none_iff] at h
    rw [Option.getD_none]
    by_cases hone : v.values.length = 1
    · rw [if_pos hone]
      exact .single h hone
    · rw [if_neg hone]
      exact .index h hone

theorem metricName_of_kind (h : v.kind? i = some kind) :
    v.metricName i = ScrapeBridge.metricName (v.fullName (v.dataName i) kind) := by
  rw [metricName, h]
  cases kind <;> rfl

theorem shows_of_reading? (h : v.reading? useTimestamp i = some r) : v.Shows useTimestamp i r := by
  obtain ⟨kind, value, hkind, hvalue, rfl⟩ := reading?_eq_some.mp h
  exact ⟨hvalue, kind?_eq_some_iff.mp hkind,
    ⟨v.dataName i, v.hasName_dataName i, metricName_of_kind hkind⟩, rfl, rfl⟩

theorem exists_reading?_iff (useTimestamp : Bool) :
    (∃ r, v.reading? useTimestamp i = some r) ↔ i < v.values.length ∧ ∃ kind, v.HasKind i kind := by
  simp only [← exposes_iff, Exposes, Option.isSome_iff_exists, kind?_eq_some_iff]

end Collectd.ValueList

namespace Ceilometer.Measurement

structure Shows (m : Measurement) (useTimestamp : Bool) (i : Nat) (r : Reading) : Prop where
  value : m.values[i]? = some r.value
  kind : r.kind = .gauge ↔ m.payload.get? "counter_type" = some (.string (some "gauge"))
  name : r.name = m.metricName
  labels : r.labels = m.labels
  time : r.timestampMs = if useTimestamp then m.timestampMs? else none

variable {m : Measurement} {i : Nat} {r : Reading} {useTimestamp : Bool}

theorem kind_eq_gauge_iff (m : Measurement) :
    m.kind = .gauge ↔ m.payload.get? "counter_type" = some (.string (some "gauge")) := by
  have hjson : ∀ j : Json, j.text? = some "gauge" ↔ j = .string (some "gauge") := by
    intro j
    cases j <;> simp [Json.text?]
  have htext : m.text? "counter_type" = some "gauge" ↔
      m.payload.get? "counter_type" = some (.string (some "gauge")) := by
    simp [text?, Option.bind_eq_some_iff, hjson]
  rw [← htext, kind]
  by_cases h : m.text? "counter_type" = some "gauge" <;> simp [h]

theorem shows_of_reading? (h : m.reading? useTimestamp i = some r) : m.Shows useTimestamp i r := by
  obtain ⟨value, hvalue, rfl⟩ := reading?_eq_some.mp h
  exact ⟨hvalue, m.kind_eq_gauge_iff, rfl, rfl, rfl⟩

theorem exists_reading?_iff (useTimestamp : Bool) :
    (∃ r, m.reading? useTimestamp i = some r) ↔ i < m.values.length := by
  simp only [reading?_eq_some]
  constructor
  · rintro ⟨_, _, hvalue, -⟩
    exact (List.getElem?_eq_some_iff.mp hvalue).1
  · exact fun hi => ⟨_, _, List.getElem?_eq_getElem hi, rfl⟩

end Ceilometer.Measurement

namespace Sample

/-- There is a value at the index, of a type that can be exposed. -/
def Supports : Sample → Nat → Prop
  | collectd v, i => i < v.values.length ∧ ∃ kind, v.HasKind i kind
  | ceilometer m, i => i < m.values.length

def Shows (useTimestamp : Bool) : Sample → Nat → Reading → Prop
  | collectd v => v.Shows useTimestamp
  | ceilometer m => m.Shows useTimestamp

variable {s : Sample} {i : Nat} {r : Reading} {useTimestamp : Bool}

theorem shows_of_reading? (h : s.reading? useTimestamp i = some r) : s.Shows useTimestamp i r := by
  cases s with
  | collectd v => exact Collectd.ValueList.shows_of_reading? h
  | ceilometer m => exact Ceilometer.Measurement.shows_of_reading? h

theorem exists_reading?_iff (s : Sample) (useTimestamp : Bool) (i : Nat) :
    (∃ r, s.reading? useTimestamp i = some r) ↔ s.Supports i := by
  cases s with
  | collectd v => exact Collectd.ValueList.exists_reading?_iff useTimestamp
  | ceilometer m => exact Ceilometer.Measurement.exists_reading?_iff useTimestamp

theorem Supports.lt (h : s.Supports i) : i < s.values.length := by
  cases s with
  | collectd v => exact h.1
  | ceilometer m => exact h

def shownIndices (useTimestamp : Bool) (s : Sample) : List Nat :=
  (List.range s.values.length).filter fun i => (s.reading? useTimestamp i).isSome

theorem mem_shownIndices : i ∈ s.shownIndices useTimestamp ↔ s.Supports i := by
  rw [shownIndices, List.mem_filter, List.mem_range, Option.isSome_iff_exists,
    exists_reading?_iff]
  exact and_iff_right_of_imp Supports.lt

theorem pairwise_shownIndices (useTimestamp : Bool) (s : Sample) :
    (s.shownIndices useTimestamp).Pairwise (· < ·) :=
  List.pairwise_lt_range.filter _

theorem forall₂_filterMap {α β : Type} (f : α → Option β) (l : List α) :
    List.Forall₂ (fun a b => f a = some b) (l.filter fun a => (f a).isSome) (l.filterMap f) := by
  induction l with
  | nil => exact .nil
  | cons a l ih =>
    cases h : f a with
    | none => simpa [h] using ih
    | some b => simpa [h] using ih

theorem appendReadings_eq (useTimestamp : Bool) (s : Sample) (output : List Reading) :
    s.appendReadings useTimestamp output =
      (output ++ s.readings useTimestamp, (s.readings useTimestamp).length) := by
  rw [appendReadings, List.foldl_append_eq_append, ← List.flatMap_def,
    ← List.filterMap_eq_flatMap_toList, List.length_append, Nat.add_sub_cancel_left]
  rfl

/-- A sample puts one reading for each value that can be exposed behind what is there, in the order
of the values and nothing else, and says how many these are. Each shows what the sample has at the
value's own index. -/
theorem appendReadings_aligned (s : Sample) (useTimestamp : Bool) (output : List Reading) :
    ∃ readings indices,
      s.appendReadings useTimestamp output = (output ++ readings, readings.length) ∧
      readings = s.readings useTimestamp ∧
      indices.Pairwise (· < ·) ∧ (∀ i, i ∈ indices ↔ s.Supports i) ∧
      List.Forall₂ (s.Shows useTimestamp) indices readings :=
  ⟨s.readings useTimestamp, s.shownIndices useTimestamp, s.appendReadings_eq useTimestamp output,
    rfl, s.pairwise_shownIndices useTimestamp, fun _ => mem_shownIndices,
    (forall₂_filterMap (s.reading? useTimestamp) _).imp fun _ _ => shows_of_reading?⟩

end Sample

end ScrapeBridge
