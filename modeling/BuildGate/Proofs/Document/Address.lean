import Mathlib.Data.List.Forall2
import BuildGate.Proofs.Document.Finite

namespace BuildGate.Value

/-- Whatever holds of a list or a record as soon as it holds of everything directly inside holds of every value. -/
@[elab_as_elim]
theorem nestedInduction {motive : Value → Prop} (null : motive .null) (bool : ∀ flag, motive (.bool flag))
    (int : ∀ number, motive (.int number)) (float : ∀ number, motive (.float number))
    (text : ∀ content, motive (.text content))
    (list : ∀ items, (∀ item ∈ items, motive item) → motive (.list items))
    (record : ∀ fields, (∀ field ∈ fields, motive field.2) → motive (.record fields)) (v : Value) : motive v := by
  refine @Value.rec motive (fun items => ∀ item ∈ items, motive item)
    (fun fields => ∀ field ∈ fields, motive field.2) (fun field => motive field.2)
    null bool int float text list record ?_ ?_ ?_ ?_ ?_ v
  · simp
  · intro item rest first later
    simpa [first] using later
  · simp
  · intro field rest first later
    rw [List.forall_mem_cons]
    exact ⟨first, later⟩
  · intro key v inside
    exact inside

inductive Step where
  | item (position : Nat)
  | field (key : String)

def at? : Value → List Step → Option Value
  | v, [] => some v
  | .list items, .item position :: rest => items[position]?.bind fun item => item.at? rest
  | .record fields, .field key :: rest => (fields.lookup key).bind fun v => v.at? rest
  | _, _ => none

/-- The first of two steps down from one value leads to a place in front of where the second one leads. -/
inductive Step.Before : Step → Step → Prop
  | item {position later : Nat} (before : position < later) : Before (.item position) (.item later)
  | field {key later : String} (before : key < later) : Before (.field key) (.field later)

abbrev Ahead : List Step → List Step → Prop := List.Lex Step.Before

theorem at?_list_text_iff (items : List Value) (place : List Step) (content : String) :
    (Value.list items).at? place = some (.text content) ↔ ∃ position rest item,
      place = .item position :: rest ∧ items[position]? = some item ∧ item.at? rest = some (.text content) := by
  cases place with
  | nil => simp [at?]
  | cons step rest =>
    cases step with
    | item position => simp [at?, Option.bind_eq_some_iff]
    | field key => simp [at?]

theorem at?_record_text_iff (fields : List (String × Value)) (place : List Step) (content : String) :
    (Value.record fields).at? place = some (.text content) ↔ ∃ key rest v,
      place = .field key :: rest ∧ fields.lookup key = some v ∧ v.at? rest = some (.text content) := by
  cases place with
  | nil => simp [at?]
  | cons step rest =>
    cases step with
    | item position => simp [at?]
    | field key => simp [at?, Option.bind_eq_some_iff]

theorem at?_text_iff (content : String) (place : List Step) (v : Value) :
    (Value.text content).at? place = some v ↔ place = [] ∧ v = .text content := by
  cases place <;> simp [at?, eq_comm]

theorem ahead_total {v : Value} {here there : List Step} {content other : String}
    (left : v.at? here = some (.text content)) (right : v.at? there = some (.text other)) :
    here = there ∨ Ahead here there ∨ Ahead there here := by
  induction here generalizing v there with
  | nil =>
    cases Option.some.inj left
    exact .inl ((at?_text_iff _ _ _).1 right).1.symm
  | cons step rest ih =>
    cases v with
    | list items =>
      obtain ⟨position, below, item, same, found, inside⟩ := (at?_list_text_iff _ _ _).1 left
      obtain ⟨rfl, rfl⟩ := List.cons.inj same
      obtain ⟨position', below', item', rfl, found', inside'⟩ := (at?_list_text_iff _ _ _).1 right
      rcases Nat.lt_trichotomy position position' with before | rfl | after
      · exact .inr (.inl (.rel (.item before)))
      · cases found.symm.trans found'
        rcases ih inside inside' with rfl | ahead | behind
        · exact .inl rfl
        · exact .inr (.inl (.cons ahead))
        · exact .inr (.inr (.cons behind))
      · exact .inr (.inr (.rel (.item after)))
    | record fields =>
      obtain ⟨key, below, w, same, found, inside⟩ := (at?_record_text_iff _ _ _).1 left
      obtain ⟨rfl, rfl⟩ := List.cons.inj same
      obtain ⟨key', below', w', rfl, found', inside'⟩ := (at?_record_text_iff _ _ _).1 right
      by_cases before : key < key'
      · exact .inr (.inl (.rel (.field before)))
      · by_cases after : key' < key
        · exact .inr (.inr (.rel (.field after)))
        · obtain rfl := String.le_antisymm (String.not_lt.1 after) (String.not_lt.1 before)
          cases found.symm.trans found'
          rcases ih inside inside' with rfl | ahead | behind
          · exact .inl rfl
          · exact .inr (.inl (.cons ahead))
          · exact .inr (.inr (.cons behind))
    | text content => cases ((at?_text_iff _ _ _).1 left).1
    | _ => simp [at?] at left

end BuildGate.Value
