import Mathlib.Data.List.Sort
import BuildGate.Dict

namespace BuildGate.Dict

variable {α : Type}

theorem lookup_entry (key : String) (entry : String × α) (rest : List (String × α)) :
    (entry :: rest).lookup key = if key = entry.1 then some entry.2 else rest.lookup key := by
  obtain ⟨name, value⟩ := entry
  by_cases same : key = name
  · simp [same]
  · have missed : (key == name) = false := by simpa using same
    simp [List.lookup_cons, missed, same]

theorem lookup_insertEntry (key other : String) (value : α) (entries : List (String × α)) :
    (insertEntry key value entries).lookup other =
      if other = key then some value else entries.lookup other := by
  induction entries with
  | nil => rw [insertEntry, lookup_entry]
  | cons entry rest ih =>
    simp only [insertEntry]
    split
    · rw [lookup_entry]
    · split
      · rename_i equal
        by_cases same : other = key
        · simp only [lookup_entry, same, ↓reduceIte]
        · have apart : other ≠ entry.1 := equal ▸ same
          simp only [lookup_entry, same, apart, ↓reduceIte]
      · rename_i different
        rw [lookup_entry, ih, lookup_entry]
        by_cases same : other = key
        · simp only [same, different, ↓reduceIte]
        · simp only [same, ↓reduceIte]

theorem lookup_filter_fst (p : String → Bool) (key : String) (entries : List (String × α)) :
    (entries.filter fun entry => p entry.1).lookup key =
      if p key then entries.lookup key else none := by
  induction entries with
  | nil => simp
  | cons entry rest ih =>
    by_cases kept : p entry.1 = true
    · rw [List.filter_cons, if_pos kept, lookup_entry, lookup_entry, ih]
      by_cases same : key = entry.1
      · simp only [same, kept, ↓reduceIte]
      · simp only [same, ↓reduceIte]
    · rw [List.filter_cons, if_neg kept, ih, lookup_entry]
      by_cases same : key = entry.1
      · simp only [same, kept, ↓reduceIte, Bool.false_eq_true]
      · simp only [same, ↓reduceIte]

@[simp] theorem get?_empty (key : String) : (∅ : Dict α).get? key = none := rfl

theorem get?_insert (d : Dict α) (key other : String) (value : α) :
    (d.insert key value).get? other = if other = key then some value else d.get? other :=
  lookup_insertEntry key other value d.entries

theorem get?_filterKeys (p : String → Bool) (d : Dict α) (key : String) :
    (d.filterKeys p).get? key = if p key then d.get? key else none :=
  lookup_filter_fst p key d.entries

theorem get?_erase (d : Dict α) (key other : String) :
    (d.erase key).get? other = if other = key then none else d.get? other := by
  rw [erase, get?_filterKeys]
  by_cases same : other = key <;> simp [same]

theorem get?_mapValues {β : Type} (f : α → β) (d : Dict α) (key : String) :
    (d.mapValues f).get? key = (d.get? key).map f := by
  obtain ⟨entries, sorted⟩ := d
  simp only [get?, mapValues]
  clear sorted
  induction entries with
  | nil => rfl
  | cons entry rest ih =>
    rw [List.map_cons, lookup_entry, lookup_entry, ih]
    split <;> rfl

theorem keys_nodup (d : Dict α) : d.keys.Nodup := by
  apply d.sorted.imp
  rintro key other before rfl
  exact String.lt_irrefl key before

theorem mem_entries_iff (d : Dict α) (key : String) (value : α) :
    (key, value) ∈ d.entries ↔ d.get? key = some value := by
  obtain ⟨entries, sorted⟩ := d
  simp only [get?]
  induction entries with
  | nil => simp
  | cons entry rest ih =>
    simp only [List.map_cons, List.pairwise_cons] at sorted
    obtain ⟨least, tail⟩ := sorted
    rw [List.mem_cons, ih tail, lookup_entry]
    by_cases same : key = entry.1
    · have absent : rest.lookup key ≠ some value := by
        intro found
        have later := least key (List.mem_map.2 ⟨_, (ih tail).2 found, rfl⟩)
        exact String.lt_irrefl _ (same ▸ later)
      simp only [same, ↓reduceIte, Option.some.injEq] at absent ⊢
      simp only [absent, or_false, Prod.ext_iff, true_and, eq_comm]
    · have apart : (key, value) ≠ entry := fun equal => same (congrArg Prod.fst equal)
      simp only [apart, false_or, same, ↓reduceIte]

theorem ext_get? {d e : Dict α} (same : ∀ key, d.get? key = e.get? key) : d = e := by
  have ascending : ∀ f : Dict α, f.entries.Pairwise fun a b => a.1 < b.1 :=
    fun f => List.pairwise_map.1 f.sorted
  have : Std.Irrefl fun a b : String × α => a.1 < b.1 := ⟨fun a => String.lt_irrefl a.1⟩
  have : Std.Antisymm fun a b : String × α => a.1 < b.1 :=
    ⟨fun a b before after => absurd (String.lt_trans before after) (String.lt_irrefl a.1)⟩
  apply ext_entries
  apply List.Pairwise.eq_of_mem_iff (ascending d) (ascending e)
  rintro ⟨key, value⟩
  rw [mem_entries_iff, mem_entries_iff, same]

theorem mapValues_id (d : Dict α) : d.mapValues id = d :=
  ext_get? fun key => by rw [get?_mapValues, Option.map_id_apply]

theorem keys_mapValues {β : Type} (f : α → β) (d : Dict α) : (d.mapValues f).keys = d.keys := by
  simp [keys, mapValues]

theorem mem_keys_iff (d : Dict α) (key : String) : key ∈ d.keys ↔ ∃ value, d.get? key = some value := by
  simp only [keys, List.mem_map, Prod.exists, ← mem_entries_iff, exists_and_right, exists_eq_right]

theorem insertEntry_last {key : String} {value : α} {entries : List (String × α)}
    (last : ∀ entry ∈ entries, entry.1 < key) :
    insertEntry key value entries = entries ++ [(key, value)] := by
  induction entries with
  | nil => rfl
  | cons entry rest ih =>
    have before := last entry List.mem_cons_self
    have notAfter : ¬ key < entry.1 := String.lt_asymm before
    have notSame : key ≠ entry.1 := fun same => String.lt_irrefl _ (same ▸ before)
    have later := ih fun e member => last e (List.mem_cons_of_mem _ member)
    rw [insertEntry, if_neg notAfter, if_neg notSame, later, List.cons_append]

theorem entries_insertAll {d : Dict α} {more : List (String × α)}
    (sorted : ((d.entries ++ more).map Prod.fst).Pairwise (· < ·)) :
    (d.insertAll more).entries = d.entries ++ more := by
  induction more generalizing d with
  | nil => simp [insertAll]
  | cons entry rest ih =>
    have last : ∀ e ∈ d.entries, e.1 < entry.1 := by
      intro e member
      rw [List.map_append, List.map_cons] at sorted
      exact (List.pairwise_append.1 sorted).2.2 _ (List.mem_map_of_mem member) _ List.mem_cons_self
    have inserted : (d.insert entry.1 entry.2).entries = d.entries ++ [entry] := insertEntry_last last
    have rejoined : d.entries ++ entry :: rest = (d.insert entry.1 entry.2).entries ++ rest := by
      rw [inserted, List.append_assoc, List.singleton_append]
    rw [rejoined] at sorted ⊢
    exact ih sorted

theorem entries_ofList {entries : List (String × α)} (sorted : (entries.map Prod.fst).Pairwise (· < ·)) :
    (ofList entries).entries = entries :=
  entries_insertAll sorted

@[simp] theorem ofList_entries (d : Dict α) : ofList d.entries = d := ext_entries (entries_ofList d.sorted)

theorem lookup_forall₂ {β : Type} {R : α → β → Prop} {left : List (String × α)} {right : List (String × β)}
    (related : List.Forall₂ (fun a b => b.1 = a.1 ∧ R a.2 b.2) left right) (key : String) :
    Option.Rel R (left.lookup key) (right.lookup key) := by
  induction related with
  | nil => exact .none
  | @cons a b _ _ first _ ih =>
    rw [lookup_entry, lookup_entry, first.1]
    split
    · exact .some first.2
    · exact ih

end BuildGate.Dict
