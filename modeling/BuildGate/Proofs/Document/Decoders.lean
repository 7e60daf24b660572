import BuildGate.Document.Decode

namespace BuildGate.Decode

variable {α : Type}

theorem text_ok_iff (v : Value) (content : String) : text v = .ok content ↔ v = .text content := by
  cases v <;> simp [text, mistyped, fail]

theorem bool_ok_iff (v : Value) (flag : Bool) : bool v = .ok flag ↔ v = .bool flag := by
  cases v <;> simp [bool, mistyped, fail]

theorem intWithin_ok_iff (low high : Int) (expected : String) (v : Value) (n : Int) :
    intWithin low high expected v = .ok n ↔ v = .int n ∧ low ≤ n ∧ n ≤ high := by
  cases v with
  | int number =>
    by_cases bounds : low ≤ number ∧ number ≤ high
    · simp only [intWithin, bounds, and_self, ↓reduceIte, Except.ok.injEq, Value.int.injEq]
      constructor
      · rintro rfl
        exact ⟨rfl, bounds⟩
      · exact And.left
    · simp only [intWithin, bounds, ↓reduceIte, fail, reduceCtorEq, Value.int.injEq, false_iff, not_and]
      rintro rfl
      exact not_and.1 bounds
  | _ => simp [intWithin, mistyped, fail]

theorem map_ok_iff {β ε : Type} {f : α → β} {result : Except ε α} {b : β} :
    result.map f = .ok b ↔ ∃ a, result = .ok a ∧ b = f a := by
  cases result <;> simp [Except.map, eq_comm]

theorem map_error_iff {β ε : Type} {f : α → β} {result : Except ε α} {e : ε} :
    result.map f = .error e ↔ result = .error e := by
  cases result <;> simp [Except.map]

theorem optional_ok_iff (inner : Value → Decoded α) (v : Value) (content : Option α) :
    optional inner v = .ok content ↔
      v = .null ∧ content = none ∨ v ≠ .null ∧ ∃ a, inner v = .ok a ∧ content = some a := by
  cases v with
  | null => simp [optional, eq_comm]
  | _ => simp [optional, map_ok_iff]

theorem items_cons_ok {inner : Value → Decoded α} {position : Nat} {v : Value} {vs : List Value} {found : List α}
    (decoded : items inner position (v :: vs) = .ok found) :
    ∃ first rest, inner v = .ok first ∧ items inner (position + 1) vs = .ok rest ∧ found = first :: rest := by
  rw [items] at decoded
  cases first : inner v with
  | error e =>
    rw [first] at decoded
    cases decoded
  | ok a =>
    rw [first] at decoded
    change (items inner (position + 1) vs >>= fun rest => pure (a :: rest)) = .ok found at decoded
    cases rest : items inner (position + 1) vs with
    | error e =>
      rw [rest] at decoded
      cases decoded
    | ok as =>
      rw [rest] at decoded
      cases decoded
      exact ⟨a, as, rfl, rfl, rfl⟩

theorem exists_items_of_list {inner : Value → Decoded α} {v : Value} {found : List α}
    (decoded : list inner v = .ok found) : ∃ vs, v = .list vs ∧ items inner 0 vs = .ok found := by
  cases v with
  | list vs => exact ⟨vs, rfl, decoded⟩
  | _ => cases decoded

end BuildGate.Decode
