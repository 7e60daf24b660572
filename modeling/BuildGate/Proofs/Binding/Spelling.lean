import BuildGate.Binding.Coerce
import BuildGate.Proofs.Decimal.Digits
import BuildGate.Proofs.Dict.Lookup

namespace BuildGate

namespace Value

structure Plain (content : String) : Prop where
  noInteger : Decimal.int64? content = none
  noTruth : ∀ flag : Bool, content ≠ toString flag
  noNumber : ∀ x, Decimal.float? content = some x → x.isFinite = false

inductive Spells (content : String) : Value → Prop
  | text : Spells content (.text content)
  | int {n : Int} (digits : Decimal.int64? content = some n) : Spells content (.int n)
  | bool {flag : Bool} (word : content = toString flag) : Spells content (.bool flag)
  | float {x : Float} (number : Decimal.float? content = some x) : Spells content (.float x)

theorem spells_ofSpelling (content : String) : Spells content (ofSpelling content) := by
  unfold ofSpelling
  split
  · rename_i digits
    exact .int digits
  · split
    · rename_i word
      exact .bool word
    · split
      · rename_i word
        exact .bool word
      · split
        · rename_i number
          split
          · exact .float number
          · exact .text
        · exact .text

theorem ofSpelling_eq_int_iff (content : String) (n : Int) :
    ofSpelling content = .int n ↔ Decimal.int64? content = some n := by
  constructor
  · intro read
    have spells := spells_ofSpelling content
    rw [read] at spells
    cases spells with
    | int digits => exact digits
  · intro digits
    simp only [ofSpelling, digits]

theorem ofSpelling_toString_bool (flag : Bool) : ofSpelling (toString flag) = .bool flag := by
  cases flag <;> rfl

theorem ofSpelling_eq_text_iff (content : String) : ofSpelling content = .text content ↔ Plain content := by
  constructor
  · intro read
    refine ⟨?_, ?_, ?_⟩
    · cases digits : Decimal.int64? content with
      | none => rfl
      | some n => simp [ofSpelling, digits] at read
    · rintro flag rfl
      rw [ofSpelling_toString_bool] at read
      cases read
    · intro x number
      by_contra finite
      have finite : x.isFinite = true := by simpa using finite
      unfold ofSpelling at read
      split at read
      · cases read
      · split at read
        · cases read
        · split at read
          · cases read
          · simp [number, finite] at read
  · rintro ⟨noInteger, noTruth, noNumber⟩
    have notTrue : content ≠ "true" := noTruth true
    have notFalse : content ≠ "false" := noTruth false
    simp only [ofSpelling, noInteger, notTrue, notFalse, ↓reduceIte]
    split
    · rename_i number
      simp [noNumber _ number]
    · rfl

theorem coerceItems_eq_map (items : List Value) : coerceItems items = items.map coerce := by
  induction items with
  | nil => rfl
  | cons item rest ih => rw [coerceItems, ih, List.map_cons]

theorem coerceFields_eq_map (fields : List (String × Value)) :
    coerceFields fields = fields.map fun field => (field.1, field.2.coerce) := by
  induction fields with
  | nil => rfl
  | cons field rest ih => rw [coerceFields, ih, List.map_cons]

theorem coerce_ofDict (params : Params) : (ofDict params).coerce = ofDict (params.mapValues coerce) := by
  rw [ofDict, coerce, coerceFields_eq_map]
  rfl

mutual

/-- Some whole numbers and truth values in a tree were written out as text. -/
inductive Respelled : Value → Value → Prop
  | kept (v : Value) : Respelled v v
  | int (n : Int) : Respelled (.int n) (.text (toString n))
  | bool (flag : Bool) : Respelled (.bool flag) (.text (toString flag))
  | list {items texts : List Value} (each : RespelledItems items texts) : Respelled (.list items) (.list texts)
  | record {fields texts : List (String × Value)} (each : RespelledFields fields texts) :
      Respelled (.record fields) (.record texts)

inductive RespelledItems : List Value → List Value → Prop
  | nil : RespelledItems [] []
  | cons {v w : Value} {items texts : List Value} (first : Respelled v w) (rest : RespelledItems items texts) :
      RespelledItems (v :: items) (w :: texts)

inductive RespelledFields : List (String × Value) → List (String × Value) → Prop
  | nil : RespelledFields [] []
  | cons {key : String} {v w : Value} {fields texts : List (String × Value)} (first : Respelled v w)
      (rest : RespelledFields fields texts) : RespelledFields ((key, v) :: fields) ((key, w) :: texts)

end

theorem RespelledItems.refl (items : List Value) : RespelledItems items items := by
  induction items with
  | nil => exact .nil
  | cons item rest ih => exact .cons (.kept item) ih

theorem Respelled.items {items : List Value} {w : Value} (respelled : Respelled (.list items) w) :
    ∃ texts, w = .list texts ∧ RespelledItems items texts := by
  cases respelled with
  | kept => exact ⟨items, rfl, .refl items⟩
  | list each => exact ⟨_, rfl, each⟩

theorem RespelledFields.refl (fields : List (String × Value)) : RespelledFields fields fields := by
  induction fields with
  | nil => exact .nil
  | cons field rest ih => exact .cons (.kept field.2) ih

theorem Respelled.fields {fields texts : List (String × Value)}
    (respelled : Respelled (.record fields) (.record texts)) : RespelledFields fields texts := by
  cases respelled with
  | kept => exact .refl fields
  | record each => exact each

theorem RespelledFields.lookup {fields texts : List (String × Value)} (respelled : RespelledFields fields texts)
    (key : String) : Option.Rel Respelled (fields.lookup key) (texts.lookup key) := by
  induction fields generalizing texts with
  | nil =>
    cases respelled
    exact .none
  | cons field rest ih =>
    cases respelled with
    | cons first later =>
      rw [Dict.lookup_entry, Dict.lookup_entry]
      split
      · exact .some first
      · exact ih later

theorem Respelled.get? {tree texts : Params} (respelled : Respelled (ofDict tree) (ofDict texts)) (key : String) :
    Option.Rel Respelled (tree.get? key) (texts.get? key) :=
  respelled.fields.lookup key

end Value

end BuildGate
