import BuildGate.Proofs.Dict.Lookup
import BuildGate.Proofs.Sequence.Kept

namespace BuildGate

namespace Dict

variable {α : Type}

theorem get?_insertAll (d : Dict α) (entries : List (String × α)) (key : String) :
    (d.insertAll entries).get? key = (entries.reverse.lookup key).or (d.get? key) := by
  induction entries generalizing d with
  | nil => rfl
  | cons entry rest ih =>
    have unfolded : d.insertAll (entry :: rest) = (d.insert entry.1 entry.2).insertAll rest := rfl
    rw [unfolded, ih, get?_insert, List.reverse_cons, List.lookup_append, lookup_entry]
    cases rest.reverse.lookup key <;> by_cases same : key = entry.1 <;> simp [same]

theorem get?_insertAll_entries (d e : Dict α) (key : String) :
    (d.insertAll e.entries).get? key = (e.get? key).or (d.get? key) := by
  have alone := get?_insertAll ∅ e.entries key
  rw [get?_empty, Option.or_none, ← ofList, ofList_entries] at alone
  rw [get?_insertAll, alone]

theorem get?_ofList_eq_some_iff (entries : List (String × α)) (key : String) (value : α) :
    (ofList entries).get? key = some value ↔ Latest (·.1 = key) entries (key, value) := by
  rw [ofList, get?_insertAll, get?_empty, Option.or_none, List.lookup_eq_some_iff]
  constructor
  · rintro ⟨after, before, split, later⟩
    refine ⟨before.reverse, after.reverse, ?_, rfl, ?_⟩
    · rw [← entries.reverse_reverse, split]
      simp
    · intro entry member same
      simpa [same] using later entry (List.mem_reverse.1 member)
  · rintro ⟨before, after, rfl, -, later⟩
    refine ⟨after.reverse, before.reverse, by simp, ?_⟩
    intro entry member
    exact bne_iff_ne.2 (Ne.symm (later entry (List.mem_reverse.1 member)))

theorem get?_ofList_eq_none_iff (entries : List (String × α)) (key : String) :
    (ofList entries).get? key = none ↔ ∀ entry ∈ entries, entry.1 ≠ key := by
  rw [ofList, get?_insertAll, get?_empty, Option.or_none, List.lookup_eq_none_iff]
  constructor
  · intro absent entry member
    exact Ne.symm (bne_iff_ne.1 (absent entry (List.mem_reverse.2 member)))
  · intro absent entry member
    exact bne_iff_ne.2 (Ne.symm (absent entry (List.mem_reverse.1 member)))

theorem get?_ofList_of_mem {entries : List (String × α)} (distinct : (entries.map Prod.fst).Nodup) {key : String}
    {value : α} (member : (key, value) ∈ entries) : (ofList entries).get? key = some value := by
  obtain ⟨before, after, rfl⟩ := List.append_of_mem member
  rw [get?_ofList_eq_some_iff]
  refine ⟨before, after, rfl, rfl, fun entry later same => ?_⟩
  rw [List.map_append, List.map_cons, List.nodup_append, List.nodup_cons] at distinct
  exact distinct.2.1.1 (List.mem_map.2 ⟨entry, later, same⟩)

theorem mem_of_mem_ofList {entries : List (String × α)} {entry : String × α}
    (member : entry ∈ (ofList entries).entries) : entry ∈ entries := by
  obtain ⟨key, value⟩ := entry
  exact ((get?_ofList_eq_some_iff entries key value).1 ((mem_entries_iff _ _ _).1 member)).mem.1

end Dict

end BuildGate
