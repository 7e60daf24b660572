import BuildGate.Binding.Error
import BuildGate.Decimal.Read

namespace BuildGate

namespace Value

/-- The number or truth value that a text spells; the text itself if it spells none. -/
def ofSpelling (content : String) : Value :=
  match Decimal.int64? content with
  | some n => .int n
  | none =>
    if content = "true" then .bool true
    else if content = "false" then .bool false
    else
      match Decimal.float? content with
      | some x => if x.isFinite then .float x else .text content
      | none => .text content

mutual

def coerce : Value → Value
  | .text content => ofSpelling content
  | .list items => .list (coerceItems items)
  | .record fields => .record (coerceFields fields)
  | .null => .null
  | .bool flag => .bool flag
  | .int number => .int number
  | .float number => .float number

def coerceItems : List Value → List Value
  | [] => []
  | item :: items => item.coerce :: coerceItems items

def coerceFields : List (String × Value) → List (String × Value)
  | [] => []
  | (key, v) :: fields => (key, v.coerce) :: coerceFields fields

end

end Value

/-- Parameters as typed data. When neither attempt succeeds, the fault of the first one is reported. -/
def Schema.decodeParams {σ : Type} (schema : Schema σ) (params : Params) : Except BindError σ :=
  match schema.decode (.ofDict params) with
  | .ok s => .ok s
  | .error strict =>
    match schema.decode (Value.ofDict params).coerce with
    | .ok s => .ok s
    | .error _ => .error (.decode strict)

end BuildGate
