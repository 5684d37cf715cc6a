import Mathlib.Data.List.Forall2
import ScrapeBridge.Proofs.Scrape.Group

namespace ScrapeBridge.Scrape

/-- The metric tells all of a reading but its name and its help, with labels in the order of their
names. -/
structure Tells (m : Metric) (r : Reading) : Prop where
  kind : m.kind = r.kind
  value : m.value = r.value
  time : m.timestampMs = r.timestampMs
  ordered : m.labels.Pairwise (·.1 < ·.1)
  labels : ∀ name value, (name, value) ∈ m.labels ↔ r.labels.get? name = some value

/-- The reading is of the kind of the first one of its name. -/
def Kept (readings : List Reading) (r : Reading) : Prop :=
  (readings.find? (·.name = r.name)).map (·.kind) = some r.kind

instance (readings : List Reading) (r : Reading) : Decidable (Kept readings r) :=
  inferInstanceAs (Decidable (_ = _))

/-- Readings of one name agree in kind and help. -/
def Agreeing (readings : List Reading) : Prop :=
  ∀ r ∈ readings, ∀ r' ∈ readings, r.name = r'.name → r.kind = r'.kind ∧ r.help = r'.help

/-- Families that differ at most in the order of their metrics. -/
structure SameUpToOrder (f g : Family) : Prop where
  name : f.name = g.name
  help : f.help = g.help
  kind : f.kind = g.kind
  metrics : f.metrics.Perm g.metrics

variable {readings readings' : List Reading} {f g : Family} {r : Reading} {name : String}

theorem tells_metric (r : Reading) : Tells (metric r) r :=
  ⟨rfl, rfl, rfl, r.labels.sorted, fun _ _ => Table.mem_entries⟩

theorem tells_map_metric (readings : List Reading) :
    List.Forall₂ Tells (readings.map metric) readings := by
  rw [List.forall₂_map_left_iff]
  exact List.forall₂_same.mpr fun r _ => tells_metric r

theorem ascending_names_group (readings : List Reading) :
    ((group readings).map (·.name)).Pairwise (· < ·) := by
  rw [names_group, Table.keys, List.pairwise_map]
  exact Table.sorted _

theorem mem_names_group : name ∈ (group readings).map (·.name) ↔ ∃ r ∈ readings, r.name = name := by
  rw [names_group, Table.mem_keys]
  simp only [get?_foldl_addReading, ← Option.isSome_iff_exists, grouped?, Option.isSome_map,
    List.find?_isSome, decide_eq_true_eq]

theorem exists_first (h : f ∈ group readings) :
    ∃ first, readings.find? (·.name = f.name) = some first ∧ f.help = first.help ∧
      f.kind = first.kind ∧
      f.metrics = (readings.filter fun r => r.name = f.name && r.kind = f.kind).map metric := by
  obtain ⟨first, hfirst, heq⟩ := Option.map_eq_some_iff.mp (mem_group.mp h)
  refine ⟨first, hfirst, ?_⟩
  rw [← heq]
  exact ⟨rfl, rfl, rfl⟩

theorem metrics_of_mem_group (h : f ∈ group readings) :
    f.metrics = ((readings.filter (Kept readings)).filter (·.name = f.name)).map metric := by
  obtain ⟨first, hfirst, -, hkind, hmetrics⟩ := exists_first h
  rw [hmetrics, List.filter_filter]
  congr 1
  apply List.filter_congr
  intro r _
  by_cases hname : r.name = f.name
  · simp [Kept, hname, hfirst, hkind, eq_comm (a := r.kind)]
  · simp [hname]

theorem perm_flatMap_filter_name {names : List String} (hnames : names.Nodup)
    (h : ∀ r ∈ readings, r.name ∈ names) :
    (names.flatMap fun name => readings.filter (·.name = name)).Perm readings := by
  induction names generalizing readings with
  | nil =>
    have hnil : readings = [] := List.eq_nil_iff_forall_not_mem.mpr fun r hr => by
      cases h r hr
    rw [hnil]
    rfl
  | cons name names ih =>
    rw [List.nodup_cons] at hnames
    have hothers : ∀ r ∈ readings.filter (fun r => !decide (r.name = name)), r.name ∈ names := by
      intro r hr
      obtain ⟨hmem, hne⟩ := List.mem_filter.mp hr
      exact (List.mem_cons.mp (h r hmem)).resolve_left (by simpa using hne)
    have hsame : ∀ other ∈ names, readings.filter (·.name = other) =
        (readings.filter fun r => !decide (r.name = name)).filter (·.name = other) := by
      intro other hother
      rw [List.filter_filter]
      refine List.filter_congr fun r _ => ?_
      have hne : other ≠ name := fun heq => hnames.1 (heq ▸ hother)
      by_cases hr : r.name = other <;> simp [hr, hne]
    rw [List.flatMap_cons, List.flatMap_congr hsame]
    exact ((ih hnames.2 hothers).append_left _).trans (List.filter_append_perm _ readings)

/-- All that is kept is in some family, once. -/
theorem exists_told (readings : List Reading) :
    ∃ told : List Reading, told.Perm (readings.filter (Kept readings)) ∧
      (group readings).flatMap (·.metrics) = told.map metric := by
  refine ⟨((group readings).map (·.name)).flatMap fun name =>
    (readings.filter (Kept readings)).filter (·.name = name), ?_, ?_⟩
  · refine perm_flatMap_filter_name (nodup_names_group readings) fun r hr => ?_
    exact mem_names_group.mpr ⟨r, (List.mem_filter.mp hr).1, rfl⟩
  · rw [List.flatMap_map, List.map_flatMap]
    exact List.flatMap_congr fun f hf => metrics_of_mem_group hf

theorem Agreeing.kept (h : Agreeing readings) (hr : r ∈ readings) : Kept readings r := by
  obtain ⟨first, hfirst⟩ : ∃ first, readings.find? (·.name = r.name) = some first := by
    rw [← Option.isSome_iff_exists, List.find?_isSome]
    exact ⟨r, hr, decide_eq_true rfl⟩
  have hname : first.name = r.name := by simpa using List.find?_some hfirst
  rw [Kept, hfirst]
  exact congrArg some (h first (List.mem_of_find?_eq_some hfirst) r hr hname).1

theorem Agreeing.filter_kept (h : Agreeing readings) :
    readings.filter (Kept readings) = readings :=
  List.filter_eq_self.mpr fun _ hr => decide_eq_true (h.kept hr)

theorem Agreeing.sameUpToOrder (h : Agreeing readings) (hperm : readings.Perm readings')
    (hf : f ∈ group readings) (hg : g ∈ group readings') (hname : f.name = g.name) :
    SameUpToOrder f g := by
  obtain ⟨first, hfirst, hhelp, hkind, hmetrics⟩ := exists_first hf
  obtain ⟨first', hfirst', hhelp', hkind', hmetrics'⟩ := exists_first hg
  have hn : first.name = f.name := by simpa using List.find?_some hfirst
  have hn' : first'.name = g.name := by simpa using List.find?_some hfirst'
  obtain ⟨hsame, hsame'⟩ := h first (List.mem_of_find?_eq_some hfirst) first'
    (hperm.mem_iff.mpr (List.mem_of_find?_eq_some hfirst')) (by rw [hn, hn', hname])
  have hkinds : f.kind = g.kind := by rw [hkind, hkind', hsame]
  refine ⟨hname, by rw [hhelp, hhelp', hsame'], hkinds, ?_⟩
  rw [hmetrics, hmetrics', hname, hkinds]
  exact (hperm.filter _).map metric

theorem names_group_of_perm (hperm : readings.Perm readings') :
    (group readings).map (·.name) = (group readings').map (·.name) := by
  have hnames : ((group readings).map (·.name)).Perm ((group readings').map (·.name)) := by
    refine (List.perm_ext_iff_of_nodup (nodup_names_group _) (nodup_names_group _)).mpr ?_
    intro name
    simp only [mem_names_group, hperm.mem_iff]
  exact hnames.eq_of_pairwise (fun a b _ _ hab hba => (String.lt_asymm hab hba).elim)
    (ascending_names_group _) (ascending_names_group _)

theorem forall₂_of_names {R : Family → Family → Prop} {l l' : List Family}
    (hnames : l.map (·.name) = l'.map (·.name))
    (h : ∀ f ∈ l, ∀ g ∈ l', f.name = g.name → R f g) : List.Forall₂ R l l' := by
  induction l generalizing l' with
  | nil =>
    rw [List.map_eq_nil_iff.mp hnames.symm]
    exact .nil
  | cons f l ih =>
    cases l' with
    | nil => cases hnames
    | cons g l' =>
      rw [List.map_cons, List.map_cons, List.cons.injEq] at hnames
      refine .cons (h f (.head _) g (.head _) hnames.1) (ih hnames.2 ?_)
      exact fun f hf g hg => h f (.tail _ hf) g (.tail _ hg)

theorem Agreeing.group_of_perm (h : Agreeing readings) (hperm : readings.Perm readings') :
    List.Forall₂ SameUpToOrder (group readings) (group readings') :=
  forall₂_of_names (names_group_of_perm hperm) fun _ hf _ hg => h.sameUpToOrder hperm hf hg

/-- Readings are put into families by their names. Each family has the help and the kind of the first
reading of its name and tells all readings of its name and its kind, in order, and nothing else is
dropped than readings of another kind than the first. Where readings of one name agree nothing is
dropped, and the order of the readings shows only inside of families. -/
theorem group_partitions (readings : List Reading) :
    ((group readings).map (·.name)).Pairwise (· < ·) ∧
    (∀ name, name ∈ (group readings).map (·.name) ↔ ∃ r ∈ readings, r.name = name) ∧
    (∀ f ∈ group readings,
      ∃ first, readings.find? (·.name = f.name) = some first ∧ f.help = first.help ∧
        f.kind = first.kind ∧
        List.Forall₂ Tells f.metrics
          (readings.filter fun r => r.name = f.name && r.kind = f.kind)) ∧
    (∃ told, told.Perm (readings.filter (Kept readings)) ∧
      List.Forall₂ Tells ((group readings).flatMap (·.metrics)) told) ∧
    (Agreeing readings →
      (∃ told, told.Perm readings ∧
        List.Forall₂ Tells ((group readings).flatMap (·.metrics)) told) ∧
      ∀ readings', readings.Perm readings' →
        List.Forall₂ SameUpToOrder (group readings) (group readings')) := by
  obtain ⟨told, hperm, htold⟩ := exists_told readings
  have hall : List.Forall₂ Tells ((group readings).flatMap (·.metrics)) told :=
    htold ▸ tells_map_metric told
  refine ⟨ascending_names_group readings, fun _ => mem_names_group, fun f hf => ?_,
    ⟨told, hperm, hall⟩, fun hagree => ⟨⟨told, hagree.filter_kept ▸ hperm, hall⟩,
      fun _ => hagree.group_of_perm⟩⟩
  obtain ⟨first, hfirst, hhelp, hkind, hmetrics⟩ := exists_first hf
  exact ⟨first, hfirst, hhelp, hkind, hmetrics ▸ tells_map_metric _⟩

/-- Two readings of one name and one of another, in two orders. -/
theorem group_partitions_of_reordered :
    let reading (name : String) (value : Float) : Reading := ⟨name, "", .gauge, ∅, value, none⟩
    let readings := [reading "load" 1, reading "cpu" 2, reading "load" 3]
    Agreeing readings ∧ readings.Perm readings.reverse ∧
      List.Forall₂ SameUpToOrder (group readings) (group readings.reverse) := by
  intro reading readings
  have hagree : Agreeing readings := by
    intro r hr r' hr' _
    have hsame : ∀ s ∈ readings, s.kind = .gauge ∧ s.help = "" := by
      simp [readings, reading]
    rw [(hsame r hr).1, (hsame r' hr').1, (hsame r hr).2, (hsame r' hr').2]
    exact ⟨rfl, rfl⟩
  have hperm : readings.Perm readings.reverse := (List.reverse_perm readings).symm
  exact ⟨hagree, hperm, ((group_partitions readings).2.2.2.2 hagree).2 _ hperm⟩

end ScrapeBridge.Scrape
