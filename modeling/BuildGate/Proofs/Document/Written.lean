import BuildGate.Proofs.Dict.Latest
import BuildGate.Proofs.Document.Fields

namespace BuildGate

variable {α σ : Type}

namespace Decode

variable {inner : Value → Decoded α} {encode : α → Value}

theorem items_map {xs : List α} (each : ∀ x ∈ xs, inner (encode x) = .ok x) (position : Nat) :
    items inner position (xs.map encode) = .ok xs := by
  induction xs generalizing position with
  | nil => rfl
  | cons x rest ih =>
    have first := each x List.mem_cons_self
    have later := ih (fun y member => each y (List.mem_cons_of_mem _ member)) (position + 1)
    rw [List.map_cons, items, first, later]
    rfl

theorem list_map {xs : List α} (each : ∀ x ∈ xs, inner (encode x) = .ok x) :
    list inner (.list (xs.map encode)) = .ok xs :=
  items_map each 0

theorem entries_map (each : ∀ x, inner (encode x) = .ok x) (fields : List (String × α)) :
    entries inner (fields.map fun field => (field.1, encode field.2)) = .ok fields := by
  induction fields with
  | nil => rfl
  | cons field rest ih =>
    rw [List.map_cons, entries, each, ih]
    rfl

theorem dict_mapValues (each : ∀ x, inner (encode x) = .ok x) (d : Dict α) :
    dict inner (.ofDict (d.mapValues encode)) = .ok d := by
  have read := entries_map each d.entries
  rw [Value.ofDict, dict, Dict.mapValues, read]
  simp [Except.map]

theorem forall₂_of_items {position : Nat} {vs : List Value} {xs : List α} (decoded : items inner position vs = .ok xs) :
    List.Forall₂ (fun v x => inner v = .ok x) vs xs := by
  induction vs generalizing position xs with
  | nil =>
    cases decoded
    exact .nil
  | cons v rest ih =>
    obtain ⟨x, more, first, later, rfl⟩ := items_cons_ok decoded
    exact .cons first (ih later)

end Decode

namespace Schema

variable {schema : Schema σ} {s t : σ}

theorem exists_readFields {fields : List (String × Value)}
    (each : ∀ entry ∈ fields, ∀ s, ∃ t, schema.Passes entry.1 entry.2 s t) (s : σ) :
    ∃ t, schema.readFields s fields = .ok t := by
  induction fields generalizing s with
  | nil => exact ⟨s, rfl⟩
  | cons entry rest ih =>
    obtain ⟨between, passes⟩ := each entry List.mem_cons_self s
    obtain ⟨t, later⟩ := ih (fun other member => each other (List.mem_cons_of_mem _ member)) between
    exact ⟨t, readFields_cons_iff.2 ⟨between, passes, later⟩⟩

theorem exists_decode (complete : ∀ field ∈ schema.fields, field.required = false) {entries : List (String × Value)}
    (each : ∀ entry ∈ entries, ∀ s, ∃ t, schema.Passes entry.1 entry.2 s t) :
    ∃ t, schema.decode (.ofDict (.ofList entries)) = .ok t := by
  obtain ⟨t, read⟩ := exists_readFields (fun entry member => each entry (Dict.mem_of_mem_ofList member)) schema.initial
  have nothing : schema.missing? (Dict.ofList entries).entries = none := by
    rw [missing?, Option.map_eq_none_iff, List.find?_eq_none]
    intro field member
    simp [complete field member]
  refine ⟨t, ?_⟩
  rw [Value.ofDict, decode, read]
  simp only [bind, Except.bind, nothing]
  rfl

theorem passes_of_decode {name : String} {required : Bool} {decode : Value → Decoded α} {put : α → σ → σ}
    (found : schema.find? name = some (.of name required decode put)) {v : Value} {a : α} (read : decode v = .ok a)
    (s : σ) : ∃ t, schema.Passes name v s t :=
  ⟨put a s, .known found (Decode.map_ok_iff.2 ⟨a, read, rfl⟩)⟩

theorem Component.restored {name : String} {decode : Value → Decoded α} {get : σ → α}
    (component : schema.Component name decode get) {entries : List (String × Value)}
    (distinct : (entries.map Prod.fst).Nodup) (decoded : schema.decode (.ofDict (.ofList entries)) = .ok t)
    {v : Value} {a : α} (member : (name, v) ∈ entries) (read : decode v = .ok a) : get t = a := by
  have held := Dict.get?_ofList_of_mem distinct member
  cases component.of_decode decoded with
  | absent none => simp [none] at held
  | present given own =>
    obtain rfl := Option.some.inj (given.symm.trans held)
    exact Except.ok.inj (own.symm.trans read)

def fieldsIn (schema : Schema σ) : Value → List (String × Value)
  | .record fields => fields
  | .list items => schema.names.zip items
  | _ => []

theorem readFields_of_readItems {position : Nat} {fields : List (Field σ)} {items : List Value}
    (known : ∀ field ∈ fields, schema.find? field.name = some field)
    (read : schema.readItems position s fields items = .ok t) :
    schema.readFields s ((fields.map (·.name)).zip items) = .ok t := by
  induction fields generalizing position s items with
  | nil =>
    cases items with
    | nil => exact read
    | cons item rest =>
      simp only [readItems] at read
      split at read
      · cases read
      · exact read
  | cons field fields ih =>
    have later := fun other member => known other (List.mem_cons_of_mem _ member)
    cases items with
    | nil =>
      rw [readItems] at read
      split at read
      · cases read
      · simpa using ih later read
    | cons item rest =>
      rw [readItems] at read
      cases first : field.read item s with
      | error e => simp [first, Except.mapError, bind, Except.bind] at read
      | ok between =>
        simp only [first, Except.mapError, bind, Except.bind] at read
        exact readFields_cons_iff.2 ⟨between, .known (known field List.mem_cons_self) first, ih later read⟩

theorem readFields_fieldsIn (distinct : schema.names.Nodup) {v : Value} (decoded : schema.decode v = .ok t) :
    schema.readFields schema.initial (schema.fieldsIn v) = .ok t := by
  cases v with
  | record fields =>
    cases read : schema.readFields schema.initial fields with
    | error e => simp [decode, read, bind, Except.bind] at decoded
    | ok s =>
      simp only [decode, read, bind, Except.bind] at decoded
      split at decoded
      · cases decoded
      · exact read.trans decoded
  | list items =>
    exact readFields_of_readItems (fun field member => find?_of_distinct distinct member) decoded
  | _ => cases decoded

theorem Component.of_fieldsIn {name : String} {decode : Value → Decoded α} {get : σ → α}
    (component : schema.Component name decode get) (distinct : schema.names.Nodup)
    {v : Value} (apart : ((schema.fieldsIn v).map Prod.fst).Nodup) (decoded : schema.decode v = .ok t) :
    ((schema.fieldsIn v).lookup name).elim (get t = get schema.initial) fun given => decode given = .ok (get t) := by
  have read := readFields_fieldsIn distinct decoded
  cases given : (schema.fieldsIn v).lookup name with
  | none =>
    refine component.of_readFields_absent read fun entry member => ?_
    exact Ne.symm (bne_iff_ne.1 (List.lookup_eq_none_iff.1 given entry member))
  | some w =>
    obtain ⟨before, after, split, -⟩ := List.lookup_eq_some_iff.1 given
    exact component.of_readFields_present apart read (by simp [split])

end Schema

end BuildGate
