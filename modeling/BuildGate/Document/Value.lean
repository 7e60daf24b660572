import BuildGate.Dict

namespace BuildGate

inductive Value where
  | null
  | bool (flag : Bool)
  | int (number : Int)
  | float (number : Float)
  | text (content : String)
  | list (items : List Value)
  | record (fields : List (String × Value))
  deriving Inhabited

abbrev Params := Dict Value

namespace Value

def ofDict (fields : Dict Value) : Value := .record fields.entries

/-- A number that is neither infinite nor undefined; those two become null. -/
def ofFloat (x : Float) : Value := if x.isFinite then .float x else .null

mutual

/-- Every record inside has its fields in strictly ascending key order. -/
def Ordered : Value → Prop
  | .list items => OrderedList items
  | .record fields => (fields.map Prod.fst).Pairwise (· < ·) ∧ OrderedFields fields
  | _ => True

def OrderedList : List Value → Prop
  | [] => True
  | item :: items => item.Ordered ∧ OrderedList items

def OrderedFields : List (String × Value) → Prop
  | [] => True
  | field :: fields => field.2.Ordered ∧ OrderedFields fields

end

mutual

def finite : Value → Value
  | .float number => ofFloat number
  | .list items => .list (finiteItems items)
  | .record fields => .record (finiteFields fields)
  | .null => .null
  | .bool flag => .bool flag
  | .int number => .int number
  | .text content => .text content

def finiteItems : List Value → List Value
  | [] => []
  | item :: items => item.finite :: finiteItems items

def finiteFields : List (String × Value) → List (String × Value)
  | [] => []
  | (key, v) :: fields => (key, v.finite) :: finiteFields fields

end

mutual

def texts : Value → List String
  | .text content => [content]
  | .list items => itemTexts items
  | .record fields => fieldTexts fields
  | .null | .bool _ | .int _ | .float _ => []

def itemTexts : List Value → List String
  | [] => []
  | item :: items => item.texts ++ itemTexts items

def fieldTexts : List (String × Value) → List String
  | [] => []
  | (_, v) :: fields => v.texts ++ fieldTexts fields

end

end Value

end BuildGate
