namespace ScrapeBridge

/-- Entries are in ascending order of their keys, so that tables with the same entries are equal. -/
structure Table (α : Type) where
  entries : List (String × α)
  sorted : entries.Pairwise (·.1 < ·.1)

namespace Table

variable {α β : Type}

def empty : Table α := ⟨[], .nil⟩

instance : EmptyCollection (Table α) := ⟨empty⟩

instance : Inhabited (Table α) := ⟨empty⟩

def insertEntry (k : String) (v : α) : List (String × α) → List (String × α)
  | [] => [(k, v)]
  | e :: rest =>
    if k < e.1 then (k, v) :: e :: rest
    else if e.1 < k then e :: insertEntry k v rest
    else (k, v) :: rest

theorem key_of_mem_insertEntry {k : String} {v : α} {l : List (String × α)} {e : String × α}
    (h : e ∈ insertEntry k v l) : e.1 = k ∨ e ∈ l := by
  induction l with
  | nil => simp_all [insertEntry]
  | cons d rest ih =>
    rw [insertEntry] at h
    split at h
    · grind
    · split at h <;> grind

theorem insertEntry_sorted (k : String) (v : α) {l : List (String × α)}
    (h : l.Pairwise (·.1 < ·.1)) : (insertEntry k v l).Pairwise (·.1 < ·.1) := by
  induction l with
  | nil => simp [insertEntry]
  | cons d rest ih =>
    rw [List.pairwise_cons] at h
    rw [insertEntry]
    split
    case isTrue hk =>
      simp only [List.pairwise_cons, List.mem_cons, forall_eq_or_imp]
      exact ⟨⟨hk, fun e he => String.lt_trans hk (h.1 e he)⟩, h⟩
    case isFalse hk =>
      split
      case isTrue hd =>
        refine List.pairwise_cons.2 ⟨fun e he => ?_, ih h.2⟩
        rcases key_of_mem_insertEntry he with rfl | he
        · exact hd
        · exact h.1 e he
      case isFalse hd =>
        have heq : k = d.1 := String.le_antisymm (String.not_lt.1 hd) (String.not_lt.1 hk)
        exact List.pairwise_cons.2 ⟨fun e he => heq ▸ h.1 e he, h.2⟩

def insert (t : Table α) (k : String) (v : α) : Table α :=
  ⟨insertEntry k v t.entries, insertEntry_sorted k v t.sorted⟩

def get? (t : Table α) (k : String) : Option α :=
  (t.entries.find? (·.1 = k)).map (·.2)

def insertIfNew (t : Table α) (k : String) (v : α) : Table α :=
  if (t.get? k).isSome then t else t.insert k v

def keys (t : Table α) : List String := t.entries.map (·.1)

def filterMap (f : α → Option β) (t : Table α) : Table β :=
  ⟨t.entries.filterMap fun e => (f e.2).map (e.1, ·),
    t.sorted.filterMap _ fun a b hab c hc d hd => by
      simp only [Option.map_eq_some_iff] at hc hd
      obtain ⟨_, _, rfl⟩ := hc
      obtain ⟨_, _, rfl⟩ := hd
      exact hab⟩

def isEmpty (t : Table α) : Bool := t.entries.isEmpty

/-- The map of a list of pairs; of pairs with the same key the last counts. -/
def ofList (l : List (String × α)) : Table α :=
  l.foldl (fun t e => t.insert e.1 e.2) ∅

end Table

end ScrapeBridge
