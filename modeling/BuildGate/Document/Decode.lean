import BuildGate.Decimal.Layout
import BuildGate.Document.Value
import BuildGate.Severity
import BuildGate.Text.Quoted

namespace BuildGate

inductive Found where
  | null
  | boolean (flag : Bool)
  | integer (number : Int)
  | float (number : Float)
  | text (content : String)
  | sequence
  | map

inductive DecodeCause where
  | invalidType (found : Found) (expected : String)
  | invalidValue (found : Found) (expected : String)
  | invalidLength (length : Nat) (expected : String)
  | missingField (name : String)
  | unknownField (name : String) (known : List String)
  | unknownVariant (name : String) (known : List String)

structure DecodeError where
  cause : DecodeCause
  path : List String

abbrev Decoded (α : Type) := Except DecodeError α

namespace Found

def ofValue : Value → Found
  | .null => null
  | .bool flag => boolean flag
  | .int number => integer number
  | .float number => float number
  | .text content => text content
  | .list _ => sequence
  | .record _ => map

def describe : Found → String
  | null => "null"
  | boolean flag => "boolean `" ++ (if flag then "true" else "false") ++ "`"
  | integer number => "integer `" ++ toString number ++ "`"
  | float number => "floating point `" ++ Decimal.Layout.document.render number ++ "`"
  | text content => "string " ++ Text.Quoted.encode content
  | sequence => "sequence"
  | map => "map"

end Found

namespace DecodeCause

def alternatives (nouns : String) : List String → String
  | [] => "there are no " ++ nouns
  | [a] => "expected `" ++ a ++ "`"
  | [a, b] => "expected `" ++ a ++ "` or `" ++ b ++ "`"
  | names => "expected one of " ++ String.intercalate ", " (names.map fun n => "`" ++ n ++ "`")

def message : DecodeCause → String
  | invalidType found expected => "invalid type: " ++ found.describe ++ ", expected " ++ expected
  | invalidValue found expected => "invalid value: " ++ found.describe ++ ", expected " ++ expected
  | invalidLength length expected =>
    "invalid length " ++ toString length ++ ", expected " ++ expected
  | missingField name => "missing field `" ++ name ++ "`"
  | unknownField name known =>
    "unknown field `" ++ name ++ "`, " ++ alternatives "fields" known
  | unknownVariant name known =>
    "unknown variant `" ++ name ++ "`, " ++ alternatives "variants" known

end DecodeCause

namespace DecodeError

def message (e : DecodeError) : String := e.cause.message

def under (step : String) (e : DecodeError) : DecodeError := { e with path := step :: e.path }

end DecodeError

namespace Decode

variable {α σ : Type}

def fail (cause : DecodeCause) : Decoded α := .error ⟨cause, []⟩

def mistyped (v : Value) (expected : String) : Decoded α :=
  fail (.invalidType (Found.ofValue v) expected)

def text : Value → Decoded String
  | .text content => .ok content
  | v => mistyped v "a string"

def pathText : Value → Decoded String
  | .text content => .ok content
  | v => mistyped v "path string"

def bool : Value → Decoded Bool
  | .bool flag => .ok flag
  | v => mistyped v "a boolean"

def intWithin (low high : Int) (expected : String) : Value → Decoded Int
  | .int number =>
    if low ≤ number ∧ number ≤ high then .ok number
    else fail (.invalidValue (.integer number) expected)
  | v => mistyped v expected

def uint64 : Value → Decoded Int := intWithin 0 Decimal.maxUInt64 "u64"

def int64 : Value → Decoded Int := intWithin Decimal.minInt64 Decimal.maxInt64 "i64"

def int32 : Value → Decoded Int := intWithin (-2147483648) 2147483647 "i32"

def float64 : Value → Decoded Float
  | .float number => .ok number
  | .int number => .ok (Float.ofInt number)
  | v => mistyped v "f64"

def any : Value → Decoded Value := .ok

def optional (inner : Value → Decoded α) : Value → Decoded (Option α)
  | .null => .ok none
  | v => (inner v).map some

def items (inner : Value → Decoded α) (position : Nat) : List Value → Decoded (List α)
  | [] => .ok []
  | v :: vs => do
    let first ← (inner v).mapError (·.under (toString position))
    let rest ← items inner (position + 1) vs
    return first :: rest

def list (inner : Value → Decoded α) : Value → Decoded (List α)
  | .list vs => items inner 0 vs
  | v => mistyped v "a sequence"

def entries (inner : Value → Decoded α) : List (String × Value) → Decoded (List (String × α))
  | [] => .ok []
  | (key, v) :: fields => do
    let first ← (inner v).mapError (·.under key)
    let rest ← entries inner fields
    return (key, first) :: rest

def dict (inner : Value → Decoded α) : Value → Decoded (Dict α)
  | .record fields => (entries inner fields).map Dict.ofList
  | v => mistyped v "a map"

/-- One of several named alternatives without content: its name, or a record that maps its name to
    null. -/
def alternative (choices : List (String × α)) : Value → Decoded α
  | .text name => choose name
  | .record [(name, content)] => do
    let choice ← choose name
    match content with
    | .null => return choice
    | v => mistyped v "unit"
  | .record fields => fail (.invalidValue (Found.ofValue (.record fields)) "map with a single key")
  | v => mistyped v "string or map"
where
  choose (name : String) : Decoded α :=
    match choices.lookup name with
    | some choice => .ok choice
    | none => fail (.unknownVariant name (choices.map Prod.fst))

def severity : Value → Decoded Severity := alternative Severity.spellings

end Decode

structure Field (σ : Type) where
  name : String
  required : Bool
  read : Value → σ → Decoded σ

def Field.of {σ α : Type} (name : String) (required : Bool) (decode : Value → Decoded α)
    (put : α → σ → σ) : Field σ :=
  ⟨name, required, fun v s => (decode v).map (put · s)⟩

structure Schema (σ : Type) where
  name : String
  fields : List (Field σ)
  closed : Bool
  initial : σ
  /-- Items beyond the last field are refused when a list stands for the record. -/
  countsItems : Bool

namespace Schema

variable {σ : Type}

def names (schema : Schema σ) : List String := schema.fields.map (·.name)

def find? (schema : Schema σ) (name : String) : Option (Field σ) :=
  schema.fields.find? (·.name = name)

def readFields (schema : Schema σ) (s : σ) : List (String × Value) → Decoded σ
  | [] => .ok s
  | (key, v) :: rest =>
    match schema.find? key with
    | some field => do
      let s ← (field.read v s).mapError (·.under key)
      readFields schema s rest
    | none =>
      if schema.closed then Decode.fail (.unknownField key schema.names)
      else readFields schema s rest

def missing? (schema : Schema σ) (fields : List (String × Value)) : Option String :=
  (schema.fields.find? fun field => field.required && (fields.lookup field.name).isNone).map (·.name)

def expected (schema : Schema σ) : String :=
  let n := schema.fields.length
  "struct " ++ schema.name ++ " with " ++ toString n ++ (if n = 1 then " element" else " elements")

/-- A list stands for a record by giving the fields in their declared order. -/
def readItems (schema : Schema σ) (position : Nat) (s : σ) :
    List (Field σ) → List Value → Decoded σ
  | [], [] => .ok s
  | [], rest =>
    if schema.countsItems then
      Decode.fail (.invalidLength (position + rest.length) "fewer elements in array")
    else .ok s
  | field :: fields, [] =>
    if field.required then Decode.fail (.invalidLength position schema.expected)
    else readItems schema (position + 1) s fields []
  | field :: fields, v :: rest => do
    let s ← (field.read v s).mapError (·.under (toString position))
    readItems schema (position + 1) s fields rest

def decode (schema : Schema σ) : Value → Decoded σ
  | .record fields => do
    let s ← schema.readFields schema.initial fields
    match schema.missing? fields with
    | some name => Decode.fail (.missingField name)
    | none => return s
  | .list vs => schema.readItems 0 schema.initial schema.fields vs
  | v => Decode.mistyped v ("struct " ++ schema.name)

end Schema

end BuildGate
