import BuildGate.Proofs.Binding.Spelling
import BuildGate.Proofs.Document.Decoders

namespace BuildGate

variable {α : Type}

namespace Value

structure Reading (g : Value → Value) : Prop where
  text : ∀ content, Spells content (g (.text content))
  int : ∀ n, g (.int n) = .int n
  bool : ∀ flag, g (.bool flag) = .bool flag
  list : ∀ items, g (.list items) = .list (items.map g)
  null : ∀ v, g v = .null ↔ v = .null

theorem reading_id : Reading id where
  text _ := .text
  int _ := rfl
  bool _ := rfl
  list items := by rw [List.map_id]; rfl
  null _ := Iff.rfl

theorem reading_coerce : Reading coerce where
  text content := by
    rw [coerce]
    exact spells_ofSpelling content
  int _ := by rw [coerce]
  bool _ := by rw [coerce]
  list items := by rw [coerce, coerceItems_eq_map]
  null v := by
    cases v with
    | text content =>
      have spells := spells_ofSpelling content
      rw [coerce]
      constructor
      · intro read
        rw [read] at spells
        cases spells
      · intro other
        cases other
    | _ => simp [coerce]

end Value

open Value

namespace Decode

/-- Where numbers and truth values were written out as text, a reading of the texts is accepted only if it gives
    back what was there before. -/
def Rigid (g : Value → Value) (decode : Value → Decoded α) : Prop :=
  ∀ v w a b, decode v = .ok a → Respelled v w → decode (g w) = .ok b → g w = v

theorem toString_bool_inj : ∀ {a b : Bool}, toString a = toString b → a = b := by decide

section Rigid

variable {g : Value → Value}

theorem rigid_items {inner : Value → Decoded α} (rigid : Rigid g inner) {vs ws : List Value} {m n : Nat}
    {as bs : List α} (decoded : items inner m vs = .ok as) (respelled : RespelledItems vs ws)
    (again : items inner n (ws.map g) = .ok bs) : ws.map g = vs := by
  induction vs generalizing ws m n as bs with
  | nil =>
    cases respelled
    rfl
  | cons v vs ih =>
    cases respelled with
    | @cons _ w _ ws first rest =>
      rw [List.map_cons] at again ⊢
      obtain ⟨x, xs, readFirst, readRest, -⟩ := items_cons_ok decoded
      obtain ⟨y, ys, againFirst, againRest, -⟩ := items_cons_ok again
      rw [rigid v w x y readFirst first againFirst, ih readRest rest againRest]

variable (reading : Reading g)
include reading

theorem rigid_text : Rigid g text := by
  intro v w a b decoded respelled again
  obtain rfl := (text_ok_iff v a).1 decoded
  have again := (text_ok_iff _ b).1 again
  cases respelled
  have spells := reading.text a
  rw [again] at spells ⊢
  cases spells
  rfl

theorem rigid_uint64 : Rigid g uint64 := by
  intro v w n m decoded respelled again
  obtain ⟨rfl, -⟩ := (intWithin_ok_iff ..).1 decoded
  obtain ⟨again, -⟩ := (intWithin_ok_iff ..).1 again
  cases respelled with
  | kept => exact reading.int n
  | int =>
    -- Only a whole number is taken, and the digits of `n` read as no other one.
    have spells := reading.text (toString n)
    rw [again] at spells ⊢
    cases spells with
    | int digits =>
      rw [Decimal.int64?_toString] at digits
      split at digits
      · cases digits
        rfl
      · cases digits

theorem rigid_bool : Rigid g bool := by
  intro v w flag other decoded respelled again
  obtain rfl := (bool_ok_iff v flag).1 decoded
  have again := (bool_ok_iff _ other).1 again
  cases respelled with
  | kept => exact reading.bool flag
  | bool =>
    have spells := reading.text (toString flag)
    rw [again] at spells ⊢
    cases spells with
    | bool word => rw [toString_bool_inj word]

theorem rigid_optional {inner : Value → Decoded α} (rigid : Rigid g inner) : Rigid g (optional inner) := by
  intro v w a b decoded respelled again
  rcases (optional_ok_iff inner v a).1 decoded with ⟨rfl, -⟩ | ⟨given, x, first, -⟩
  · cases respelled
    exact (reading.null .null).2 rfl
  · rcases (optional_ok_iff inner (g w) b).1 again with ⟨empty, -⟩ | ⟨-, y, second, -⟩
    · -- No text reads as null, so null would have been there from the start.
      obtain rfl := (reading.null w).1 empty
      cases respelled
      exact absurd rfl given
    · exact rigid v w x y first respelled second

theorem rigid_list {inner : Value → Decoded α} (rigid : Rigid g inner) : Rigid g (list inner) := by
  intro v w as bs decoded respelled again
  obtain ⟨vs, rfl, decoded⟩ := exists_items_of_list decoded
  obtain ⟨ws, rfl, each⟩ := respelled.items
  rw [reading.list] at again ⊢
  rw [rigid_items rigid decoded each again]

end Rigid

/-- The value is meant as text throughout: nothing in it is ever written out, and the second attempt leaves it
    alone under a condition on what it decodes to. -/
def Textual (decode : Value → Decoded α) (plain : α → Prop) : Prop :=
  ∀ v w a, decode v = .ok a → Respelled v w → w = v ∧ (v.coerce = v ↔ plain a)

theorem textual_text : Textual text Plain := by
  intro v w content decoded respelled
  obtain rfl := (text_ok_iff v content).1 decoded
  cases respelled
  refine ⟨rfl, ?_⟩
  rw [coerce]
  exact ofSpelling_eq_text_iff content

theorem textual_optional {inner : Value → Decoded α} {plain : α → Prop} (textual : Textual inner plain) :
    Textual (optional inner) fun content => ∀ a, content = some a → plain a := by
  intro v w content decoded respelled
  rcases (optional_ok_iff inner v content).1 decoded with ⟨rfl, rfl⟩ | ⟨-, a, first, rfl⟩
  · cases respelled
    simp [coerce]
  · simpa using textual v w a first respelled

theorem textual_items {inner : Value → Decoded α} {plain : α → Prop} (textual : Textual inner plain)
    {vs ws : List Value} {position : Nat} {found : List α} (decoded : items inner position vs = .ok found)
    (respelled : RespelledItems vs ws) : ws = vs ∧ (coerceItems vs = vs ↔ ∀ a ∈ found, plain a) := by
  induction vs generalizing ws position found with
  | nil =>
    cases respelled
    cases decoded
    simp [coerceItems]
  | cons v vs ih =>
    cases respelled with
    | cons first rest =>
      obtain ⟨x, xs, readFirst, readRest, rfl⟩ := items_cons_ok decoded
      obtain ⟨rfl, firstPlain⟩ := textual v _ x readFirst first
      obtain ⟨rfl, restPlain⟩ := ih readRest rest
      refine ⟨rfl, ?_⟩
      rw [coerceItems, List.cons.injEq, firstPlain, restPlain, List.forall_mem_cons]

theorem textual_list {inner : Value → Decoded α} {plain : α → Prop} (textual : Textual inner plain) :
    Textual (list inner) fun found => ∀ a ∈ found, plain a := by
  intro v w found decoded respelled
  obtain ⟨vs, rfl, decoded⟩ := exists_items_of_list decoded
  obtain ⟨ws, rfl, each⟩ := respelled.items
  obtain ⟨rfl, plain⟩ := textual_items textual decoded each
  refine ⟨rfl, ?_⟩
  rw [coerce, Value.list.injEq]
  exact plain

def Scalar (decode : Value → Decoded α) (readable : α → Prop) : Prop :=
  ∀ v w a, decode v = .ok a → Respelled v w → w = v ∨ (w.coerce = v ↔ readable a)

theorem scalar_uint64 : Scalar uint64 (· ≤ Decimal.maxInt64) := by
  intro v w n decoded respelled
  obtain ⟨rfl, natural, -⟩ := (intWithin_ok_iff ..).1 decoded
  cases respelled with
  | kept => exact .inl rfl
  | int =>
    refine .inr ?_
    have low : Decimal.minInt64 ≤ n := Int.le_trans (by decide) natural
    have fits : Decimal.fitsInt64 n = decide (n ≤ Decimal.maxInt64) := by simp [Decimal.fitsInt64, low]
    rw [coerce, ofSpelling_eq_int_iff, Decimal.int64?_toString, fits]
    by_cases small : n ≤ Decimal.maxInt64 <;> simp [small]

theorem scalar_bool : Scalar bool fun _ => True := by
  intro v w flag decoded respelled
  obtain rfl := (bool_ok_iff v flag).1 decoded
  cases respelled with
  | kept => exact .inl rfl
  | bool =>
    refine .inr ?_
    rw [coerce, ofSpelling_toString_bool]
    simp

end Decode

end BuildGate
