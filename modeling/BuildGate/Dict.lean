namespace BuildGate

/-- A finite map from text; the entries stand in ascending order of their keys. -/
structure Dict (α : Type) where
  entries : List (String × α)
  sorted : (entries.map Prod.fst).Pairwise (· < ·)

namespace Dict

variable {α β : Type}

theorem ext_entries {d e : Dict α} (h : d.entries = e.entries) : d = e := by
  cases d; cases e; simp_all

instance [DecidableEq α] : DecidableEq (Dict α) := fun d e =>
  decidable_of_iff (d.entries = e.entries) ⟨ext_entries, fun h => h ▸ rfl⟩

def empty : Dict α := ⟨[], List.Pairwise.nil⟩

instance : EmptyCollection (Dict α) := ⟨empty⟩

instance : Inhabited (Dict α) := ⟨empty⟩

def insertEntry (key : String) (value : α) : List (String × α) → List (String × α)
  | [] => [(key, value)]
  | entry :: rest =>
    if key < entry.1 then (key, value) :: entry :: rest
    else if key = entry.1 then (key, value) :: rest
    else entry :: insertEntry key value rest

theorem mem_insertEntry {key : String} {value : α} {entry : String × α} {entries : List (String × α)}
    (h : entry ∈ insertEntry key value entries) : entry = (key, value) ∨ entry ∈ entries := by
  induction entries with
  | nil => simpa [insertEntry] using h
  | cons first rest ih =>
    simp only [insertEntry] at h
    split at h
    · simpa using h
    · split at h <;> simp only [List.mem_cons] at h ⊢
      · rcases h with h | h
        · exact .inl h
        · exact .inr (.inr h)
      · rcases h with h | h
        · exact .inr (.inl h)
        · rcases ih h with h | h
          · exact .inl h
          · exact .inr (.inr h)

theorem fst_mem_insertEntry {key k : String} {value : α} {entries : List (String × α)}
    (h : k ∈ (insertEntry key value entries).map Prod.fst) :
    k = key ∨ k ∈ entries.map Prod.fst := by
  obtain ⟨entry, member, rfl⟩ := List.mem_map.1 h
  rcases mem_insertEntry member with rfl | member
  · exact .inl rfl
  · exact .inr (List.mem_map_of_mem member)

theorem sorted_insertEntry {key : String} {value : α} {entries : List (String × α)}
    (sorted : (entries.map Prod.fst).Pairwise (· < ·)) :
    ((insertEntry key value entries).map Prod.fst).Pairwise (· < ·) := by
  induction entries with
  | nil => simp [insertEntry]
  | cons entry rest ih =>
    simp only [List.map_cons, List.pairwise_cons] at sorted
    obtain ⟨least, tail⟩ := sorted
    simp only [insertEntry]
    split
    · rename_i before
      simp only [List.map_cons, List.pairwise_cons, List.mem_cons]
      refine ⟨fun k member => ?_, least, tail⟩
      rcases member with rfl | member
      · exact before
      · exact String.lt_trans before (least k member)
    · split
      · rename_i same
        simp only [List.map_cons, List.pairwise_cons]
        exact ⟨fun k member => same ▸ least k member, tail⟩
      · rename_i notBefore notSame
        simp only [List.map_cons, List.pairwise_cons]
        refine ⟨fun k member => ?_, ih tail⟩
        rcases fst_mem_insertEntry member with rfl | member
        · exact String.not_le.1 fun le => notSame (String.le_antisymm le (String.not_lt.1 notBefore))
        · exact least k member

def insert (d : Dict α) (key : String) (value : α) : Dict α :=
  ⟨insertEntry key value d.entries, sorted_insertEntry d.sorted⟩

theorem mem_insert {d : Dict α} {key : String} {value : α} {entry : String × α}
    (h : entry ∈ (d.insert key value).entries) : entry = (key, value) ∨ entry ∈ d.entries :=
  mem_insertEntry h

def get? (d : Dict α) (key : String) : Option α := d.entries.lookup key

theorem mem_of_get? {d : Dict α} {key : String} {value : α} (h : d.get? key = some value) :
    (key, value) ∈ d.entries := by
  obtain ⟨before, after, split, -⟩ := List.lookup_eq_some_iff.1 h
  simp [split]

def contains (d : Dict α) (key : String) : Bool := (d.get? key).isSome

def keys (d : Dict α) : List String := d.entries.map Prod.fst

def size (d : Dict α) : Nat := d.entries.length

def isEmpty (d : Dict α) : Bool := d.entries.isEmpty

/-- The entries added one after the other; of two with one key the later one stays. -/
def insertAll (d : Dict α) (entries : List (String × α)) : Dict α :=
  entries.foldl (fun d entry => d.insert entry.1 entry.2) d

def ofList (entries : List (String × α)) : Dict α := (∅ : Dict α).insertAll entries

def mapValues (f : α → β) (d : Dict α) : Dict β :=
  ⟨d.entries.map fun entry => (entry.1, f entry.2), by
    simpa [List.map_map, Function.comp_def] using d.sorted⟩

def filterKeys (p : String → Bool) (d : Dict α) : Dict α :=
  ⟨d.entries.filter fun entry => p entry.1,
    d.sorted.sublist (List.Sublist.map _ List.filter_sublist)⟩

def erase (d : Dict α) (key : String) : Dict α := d.filterKeys (· ≠ key)

theorem mem_of_mem_erase {d : Dict α} {key : String} {entry : String × α}
    (h : entry ∈ (d.erase key).entries) : entry ∈ d.entries :=
  List.filter_sublist.subset h

end Dict

end BuildGate
