import BuildGate.Document.Value

namespace BuildGate.Value

mutual

def AllFinite : Value → Prop
  | .float number => number.isFinite = true
  | .list items => AllFiniteItems items
  | .record fields => AllFiniteFields fields
  | _ => True

def AllFiniteItems : List Value → Prop
  | [] => True
  | item :: items => item.AllFinite ∧ AllFiniteItems items

def AllFiniteFields : List (String × Value) → Prop
  | [] => True
  | field :: fields => field.2.AllFinite ∧ AllFiniteFields fields

end

mutual

theorem finite_eq_self : ∀ v : Value, v.AllFinite → v.finite = v
  | .float number, h => by
    have proper : number.isFinite = true := h
    simp only [finite, ofFloat, proper, ↓reduceIte]
  | .list items, h => by rw [finite, finiteItems_eq_self items h]
  | .record fields, h => by rw [finite, finiteFields_eq_self fields h]
  | .null, _ | .bool _, _ | .int _, _ | .text _, _ => rfl

theorem finiteItems_eq_self : ∀ items : List Value, AllFiniteItems items → finiteItems items = items
  | [], _ => rfl
  | item :: items, h => by rw [finiteItems, finite_eq_self item h.1, finiteItems_eq_self items h.2]

theorem finiteFields_eq_self : ∀ fields : List (String × Value), AllFiniteFields fields → finiteFields fields = fields
  | [], _ => rfl
  | (key, v) :: fields, h => by rw [finiteFields, finite_eq_self v h.1, finiteFields_eq_self fields h.2]

end

mutual

theorem allFinite_finite : ∀ v : Value, v.finite.AllFinite
  | .float number => by
    unfold finite ofFloat
    split
    · assumption
    · trivial
  | .list items => allFinite_finiteItems items
  | .record fields => allFinite_finiteFields fields
  | .null | .bool _ | .int _ | .text _ => trivial

theorem allFinite_finiteItems : ∀ items : List Value, AllFiniteItems (finiteItems items)
  | [] => trivial
  | item :: items => ⟨allFinite_finite item, allFinite_finiteItems items⟩

theorem allFinite_finiteFields : ∀ fields : List (String × Value), AllFiniteFields (finiteFields fields)
  | [] => trivial
  | (_, v) :: fields => ⟨allFinite_finite v, allFinite_finiteFields fields⟩

end

theorem finite_finite (v : Value) : v.finite.finite = v.finite := finite_eq_self _ (allFinite_finite v)

theorem allFiniteItems_iff (items : List Value) : AllFiniteItems items ↔ ∀ item ∈ items, item.AllFinite := by
  induction items with
  | nil => simp [AllFiniteItems]
  | cons item rest ih => simp [AllFiniteItems, ih]

theorem allFiniteFields_iff (fields : List (String × Value)) :
    AllFiniteFields fields ↔ ∀ field ∈ fields, field.2.AllFinite := by
  induction fields with
  | nil => simp [AllFiniteFields]
  | cons field rest ih => simp [AllFiniteFields, ih]

theorem orderedList_iff (items : List Value) : OrderedList items ↔ ∀ item ∈ items, item.Ordered := by
  induction items with
  | nil => simp [OrderedList]
  | cons item rest ih => simp [OrderedList, ih]

theorem orderedFields_iff (fields : List (String × Value)) :
    OrderedFields fields ↔ ∀ field ∈ fields, field.2.Ordered := by
  induction fields with
  | nil => simp [OrderedFields]
  | cons field rest ih => simp [OrderedFields, ih]

structure IsDocument (v : Value) : Prop where
  ordered : v.Ordered
  finite : v.AllFinite

theorem IsDocument.item {items : List Value} (whole : IsDocument (.list items)) {item : Value}
    (member : item ∈ items) : IsDocument item :=
  ⟨(orderedList_iff items).1 whole.ordered item member, (allFiniteItems_iff items).1 whole.finite item member⟩

theorem IsDocument.field {fields : List (String × Value)} (whole : IsDocument (.record fields))
    {field : String × Value} (member : field ∈ fields) : IsDocument field.2 :=
  ⟨(orderedFields_iff fields).1 whole.ordered.2 field member,
    (allFiniteFields_iff fields).1 whole.finite field member⟩

end BuildGate.Value
