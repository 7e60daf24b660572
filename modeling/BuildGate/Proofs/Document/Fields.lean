import BuildGate.Proofs.Dict.Lookup
import BuildGate.Proofs.Document.Decoders

namespace BuildGate

variable {σ α : Type}

theorem Field.read_of_ok {name : String} {required : Bool} {decode : Value → Decoded α} {put : α → σ → σ}
    {v : Value} {s t : σ} (read : (Field.of name required decode put).read v s = .ok t) :
    ∃ a, decode v = .ok a ∧ t = put a s := by
  change (decode v).map (put · s) = .ok t at read
  exact Decode.map_ok_iff.1 read

def Field.Writes (field : Field σ) (decode : Value → Decoded α) (get : σ → α) : Prop :=
  ∀ v s t, field.read v s = .ok t → decode v = .ok (get t)

def Field.Leaves (field : Field σ) (get : σ → α) : Prop :=
  ∀ v s t, field.read v s = .ok t → get t = get s

section

variable {β : Type} {name : String} {required : Bool} {decode : Value → Decoded β} {put : β → σ → σ}

@[simp] theorem Field.of_name : (Field.of name required decode put).name = name := rfl

theorem Field.of_writes {get : σ → β} (found : ∀ b s, get (put b s) = b) :
    (Field.of name required decode put).Writes decode get := by
  intro v s t read
  obtain ⟨b, decoded, rfl⟩ := Field.read_of_ok read
  rw [decoded, found]

theorem Field.of_leaves {get : σ → α} (other : ∀ b s, get (put b s) = get s) :
    (Field.of name required decode put).Leaves get := by
  intro v s t read
  obtain ⟨b, -, rfl⟩ := Field.read_of_ok read
  exact other b s

end

namespace Schema

variable {schema : Schema σ} {fields : List (String × Value)} {params : Params} {s t : σ}

/-- What a field of a document does: the field of the type that has its name reads it, or it is passed over. -/
inductive Passes (schema : Schema σ) (key : String) (v : Value) : σ → σ → Prop
  | known {field : Field σ} {s t : σ} (found : schema.find? key = some field) (read : field.read v s = .ok t) :
      Passes schema key v s t
  | unknown {s : σ} (missed : schema.find? key = none) (tolerated : schema.closed = false) :
      Passes schema key v s s

theorem readFields_cons_iff {key : String} {v : Value} :
    schema.readFields s ((key, v) :: fields) = .ok t ↔
      ∃ between, schema.Passes key v s between ∧ schema.readFields between fields = .ok t := by
  rw [readFields]
  constructor
  · intro read
    cases found : schema.find? key with
    | none =>
      cases closed : schema.closed with
      | true => simp [found, closed, Decode.fail] at read
      | false =>
        simp only [found, closed, Bool.false_eq_true, ↓reduceIte] at read
        exact ⟨s, .unknown found closed, read⟩
    | some field =>
      cases first : field.read v s with
      | error e => simp [found, first, Except.mapError, bind, Except.bind] at read
      | ok between =>
        simp only [found, first, Except.mapError] at read
        exact ⟨between, .known found first, read⟩
  · rintro ⟨between, passes, later⟩
    cases passes with
    | known found read =>
      simp only [found, read, Except.mapError]
      exact later
    | unknown missed tolerated =>
      simp only [missed, tolerated, Bool.false_eq_true, ↓reduceIte]
      exact later

theorem Passes.known_of_closed {key : String} {v : Value} (closed : schema.closed = true)
    (passes : schema.Passes key v s t) : ∃ field, schema.find? key = some field ∧ field.read v s = .ok t := by
  cases passes with
  | known found read => exact ⟨_, found, read⟩
  | unknown missed tolerated => simp [closed] at tolerated

theorem readFields_of_decode (decoded : schema.decode (.ofDict params) = .ok s) :
    schema.readFields schema.initial params.entries = .ok s := by
  unfold decode Value.ofDict at decoded
  cases read : schema.readFields schema.initial params.entries with
  | error e => simp [read, bind, Except.bind] at decoded
  | ok t =>
    simp only [read, bind, Except.bind] at decoded
    split at decoded
    · cases decoded
    · exact decoded

def Accepts (schema : Schema σ) (key : String) (v : Value) : Prop :=
  ∃ field, schema.find? key = some field ∧ ∃ s t, field.read v s = .ok t

theorem accepts_of_readFields (closed : schema.closed = true) (read : schema.readFields s fields = .ok t) :
    ∀ entry ∈ fields, schema.Accepts entry.1 entry.2 := by
  induction fields generalizing s with
  | nil => simp
  | cons entry rest ih =>
    obtain ⟨between, passes, later⟩ := readFields_cons_iff.1 read
    obtain ⟨field, found, first⟩ := passes.known_of_closed closed
    intro other member
    rcases List.mem_cons.1 member with rfl | member
    · exact ⟨field, found, s, between, first⟩
    · exact ih later other member

theorem accepts_of_decode (closed : schema.closed = true) (decoded : schema.decode (.ofDict params) = .ok s)
    {key : String} {v : Value} (given : params.get? key = some v) : schema.Accepts key v :=
  accepts_of_readFields closed (readFields_of_decode decoded) _ ((params.mem_entries_iff key v).2 given)

theorem find?_of_distinct (distinct : schema.names.Nodup) {field : Field σ} (member : field ∈ schema.fields) :
    schema.find? field.name = some field := by
  obtain ⟨before, after, split⟩ := List.append_of_mem member
  rw [names, split, List.map_append, List.map_cons, List.nodup_append] at distinct
  have unlisted : ∀ other ∈ before, other.name ≠ field.name := fun other earlier =>
    distinct.2.2 other.name (List.mem_map_of_mem earlier) field.name List.mem_cons_self
  rw [find?, split, List.find?_append, List.find?_eq_none.2 (by simpa using unlisted)]
  simp

/-- The field of one name writes what `get` finds, and the other fields leave it alone. -/
structure Component (schema : Schema σ) (name : String) (decode : Value → Decoded α) (get : σ → α) : Prop where
  listed : name ∈ schema.names
  writes : ∀ field ∈ schema.fields, field.name = name → field.Writes decode get
  leaves : ∀ field ∈ schema.fields, field.name ≠ name → field.Leaves get

/-- Nothing is given under the name and the component is as it was, or it is what the given value decodes to. -/
inductive Given (params : Params) (name : String) (decode : Value → Decoded α) (before after : α) : Prop
  | absent (none : params.get? name = none) (kept : after = before)
  | present {v : Value} (given : params.get? name = some v) (decoded : decode v = .ok after)

namespace Component

variable {name : String} {decode : Value → Decoded α} {get : σ → α}

theorem of_find? {required : Bool} {put : α → σ → σ} (distinct : schema.names.Nodup)
    (found : schema.find? name = some (.of name required decode put)) (kept : ∀ a s, get (put a s) = a)
    (leaves : ∀ field ∈ schema.fields, field.name ≠ name → field.Leaves get) : schema.Component name decode get where
  listed := List.mem_map.2 ⟨_, List.mem_of_find?_eq_some found, rfl⟩
  writes field member named := by
    obtain rfl := Option.some.inj (found.symm.trans (named ▸ find?_of_distinct distinct member))
    exact Field.of_writes kept
  leaves := leaves

theorem of_passes_other (component : schema.Component name decode get) {key : String} {v : Value}
    (passes : schema.Passes key v s t) (apart : key ≠ name) : get t = get s := by
  cases passes with
  | known found read =>
    have named := by simpa using List.find?_some found
    exact component.leaves _ (List.mem_of_find?_eq_some found) (named ▸ apart) _ _ _ read
  | unknown => rfl

theorem of_readFields_absent (component : schema.Component name decode get)
    (read : schema.readFields s fields = .ok t) (absent : ∀ entry ∈ fields, entry.1 ≠ name) :
    get t = get s := by
  induction fields generalizing s with
  | nil =>
    cases read
    rfl
  | cons entry rest ih =>
    obtain ⟨between, passes, later⟩ := readFields_cons_iff.1 read
    have same := component.of_passes_other passes (absent entry List.mem_cons_self)
    rw [ih later fun other member => absent other (List.mem_cons_of_mem _ member), same]

theorem of_readFields_present (component : schema.Component name decode get)
    (distinct : (fields.map Prod.fst).Nodup) (read : schema.readFields s fields = .ok t) {v : Value}
    (given : (name, v) ∈ fields) : decode v = .ok (get t) := by
  induction fields generalizing s with
  | nil => cases given
  | cons entry rest ih =>
    obtain ⟨single, tail⟩ := List.nodup_cons.1 distinct
    obtain ⟨between, passes, later⟩ := readFields_cons_iff.1 read
    rcases List.mem_cons.1 given with rfl | given
    · -- No later field has this name, so what is written here is not written over.
      have absent : ∀ other ∈ rest, other.1 ≠ name := by
        rintro other member rfl
        exact single (List.mem_map.2 ⟨other, member, rfl⟩)
      rw [component.of_readFields_absent later absent]
      cases passes with
      | known found first =>
        have named := by simpa using List.find?_some found
        exact component.writes _ (List.mem_of_find?_eq_some found) named _ _ _ first
      | unknown missed =>
        obtain ⟨field, member, named⟩ := List.mem_map.1 component.listed
        exact absurd named (by simpa using List.find?_eq_none.1 missed field member)
    · exact ih tail later given

theorem of_decode (component : schema.Component name decode get)
    (decoded : schema.decode (.ofDict params) = .ok s) : Given params name decode (get schema.initial) (get s) := by
  have read := readFields_of_decode decoded
  cases given : params.get? name with
  | none =>
    refine .absent given (component.of_readFields_absent read ?_)
    rintro ⟨key, v⟩ member rfl
    rw [params.mem_entries_iff, given] at member
    cases member
  | some v =>
    exact .present given
      (component.of_readFields_present params.keys_nodup read ((params.mem_entries_iff name v).2 given))

end Component

end Schema

end BuildGate
