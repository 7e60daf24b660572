import BuildGate.Expression.Error
import BuildGate.Expression.Real
import BuildGate.Text.Blank
import BuildGate.Text.Bytes
import BuildGate.Text.Case

namespace BuildGate.Expression

abbrev Evaluated := Except Error Datum

namespace Datum

def need {α : Type} (n : Need) (d : Datum) : Except Error α := .error (.unmet n d)

def asString : Datum → Except Error String
  | text content => .ok content
  | d => d.need .text

def asInt : Datum → Except Error Int
  | int n => .ok n
  | d => d.need .int

def asBoolean : Datum → Except Error Bool
  | boolean flag => .ok flag
  | d => d.need .boolean

def asTuple : Datum → Except Error (List Datum)
  | tuple items => .ok items
  | d => d.need .tuple

def asNumber : Datum → Except Error Float
  | float x => .ok x
  | int n => .ok (Float.ofInt n)
  | d => d.need .number

def asTupleOf (length : Nat) (d : Datum) : Except Error (List Datum) :=
  match d with
  | tuple items => if items.length = length then .ok items else d.need (.tupleOf length)
  | d => d.need .tuple

def asPair (d : Datum) : Except Error (Datum × Datum) :=
  match d with
  | tuple [a, b] => .ok (a, b)
  | tuple _ => d.need (.tupleOf 2)
  | d => d.need .tuple

def isScalar : Datum → Bool
  | text _ | int _ | float _ | boolean _ => true
  | tuple _ | empty => false

end Datum

namespace Function

open Datum

def pickBy (beats : Float → Float → Bool) (a b : Float) : Float :=
  if a.isNaN then b else if b.isNaN then a else if beats b a then b else a

/-- The best of some numbers, kept apart by kind: a whole number is the answer only where it beats
    every binary64 number. Both searches start from the worst number of their kind. -/
def best (beatsInt : Int → Int → Bool) (beats : Float → Float → Bool) (whole : Int) (real : Float) :
    List Datum → Evaluated
  | [] => .ok (if beats (Float.ofInt whole) real then int whole else float real)
  | .int n :: rest => best beatsInt beats (if beatsInt n whole then n else whole) real rest
  | .float x :: rest => best beatsInt beats whole (pickBy beats real x) rest
  | d :: _ => d.need .number

def minimum (d : Datum) : Evaluated :=
  d.asTuple.bind (best (· < ·) (· < ·) Decimal.maxInt64 (1.0 / 0.0))

def maximum (d : Datum) : Evaluated :=
  d.asTuple.bind (best (· > ·) (· > ·) Decimal.minInt64 (-1.0 / 0.0))

def choose (d : Datum) : Evaluated := do
  match ← d.asTupleOf 3 with
  | [condition, yes, no] => return if ← condition.asBoolean then yes else no
  | _ => d.need (.tupleOf 3)

def scalarKinds : List Kind := [.text, .int, .float, .boolean]

def containsValue (d : Datum) : Evaluated := do
  let (container, item) ← d.asPair
  let items ← container.asTuple
  if item.isScalar then return boolean (items.any (·.same item))
  else item.need (.oneOf scalarKinds)

/-- Whether any of the wanted items is there; every one of them has to be a scalar. -/
def anyOf (items : List Datum) (found : Bool) : List Datum → Evaluated
  | [] => .ok (boolean found)
  | wanted :: rest =>
    if wanted.isScalar then anyOf items (found || items.any (·.same wanted)) rest
    else wanted.need (.oneOf scalarKinds)

def containsAny (d : Datum) : Evaluated := do
  let (container, wanted) ← d.asPair
  let items ← container.asTuple
  let wanted ← wanted.asTuple
  anyOf items false wanted

/-- The length of text in bytes, or of a tuple in items. -/
def length (d : Datum) : Evaluated :=
  match d with
  | text content => .ok (int content.utf8ByteSize)
  | tuple items => .ok (int items.length)
  | d => d.need (.oneOf [.text, .tuple])

def slice (content : String) (start finish : Nat) : Evaluated :=
  match Text.bytesBetween? start finish content.toList with
  | some part => .ok (text (String.ofList part))
  | none => .error .outOfBounds

def asOffset (d : Datum) : Except Error Nat :=
  d.asInt.bind fun n => if 0 ≤ n then .ok n.toNat else .error .outOfBounds

/-- Part of a text; each offset is looked at in full before the next one. -/
def substring (d : Datum) : Evaluated :=
  match d with
  | tuple [subject, start] => do
    let content ← subject.asString
    let start ← asOffset start
    slice content start content.utf8ByteSize
  | tuple [subject, start, finish] => do
    let content ← subject.asString
    let start ← asOffset start
    let finish ← asOffset finish
    slice content start finish
  | tuple _ => d.need (.tupleBetween 2 3)
  | d => d.need .tuple

def ofReal (f : Float → Float) (d : Datum) : Evaluated := d.asNumber.map fun x => float (f x)

def ofReals (f : Float → Float → Float) (d : Datum) : Evaluated := do
  let (a, b) ← d.asPair
  let a ← a.asNumber
  let b ← b.asNumber
  return float (f a b)

def testReal (p : Float → Bool) (d : Datum) : Evaluated := d.asNumber.map fun x => boolean (p x)

def isNormal (x : Float) : Bool :=
  x.isFinite && x.toBits.toNat >>> 52 % 2048 != 0

def ofText (f : String → String) (d : Datum) : Evaluated := d.asString.map fun s => text (f s)

def ofWord (w : UInt64) : Datum := int w.toInt64.toInt

def toWord (n : Int) : UInt64 := (Int64.ofInt n).toUInt64

def ofBits (f : UInt64 → UInt64) (d : Datum) : Evaluated :=
  d.asInt.map fun n => ofWord (f (toWord n))

def ofTwoBits (f : Int → Int → Datum) (d : Datum) : Evaluated := do
  let (a, b) ← d.asPair
  let a ← a.asInt
  let b ← b.asInt
  return f a b

def absolute (d : Datum) : Evaluated :=
  match d with
  | float x => .ok (float x.abs)
  | int n => if n = Decimal.minInt64 then .error (.negation n) else .ok (int n.natAbs)
  | d => d.need .number

def table : List (String × (Datum → Evaluated)) :=
  [("if", choose), ("min", minimum), ("max", maximum), ("len", length),
    ("typeof", fun d => .ok (text d.kind.word)),
    ("contains", containsValue), ("contains_any", containsAny),
    ("floor", ofReal Float.floor), ("ceil", ofReal Float.ceil), ("round", ofReal Float.round),
    ("bitand", ofTwoBits fun a b => ofWord (toWord a &&& toWord b)),
    ("bitor", ofTwoBits fun a b => ofWord (toWord a ||| toWord b)),
    ("bitxor", ofTwoBits fun a b => ofWord (toWord a ^^^ toWord b)),
    ("bitnot", ofBits fun a => ~~~a),
    ("shl", ofTwoBits fun a b => ofWord (toWord a <<< toWord b)),
    ("shr", ofTwoBits fun a b => int (Int64.ofInt a >>> Int64.ofInt b).toInt),
    ("str::to_lowercase", ofText Text.lower), ("str::to_uppercase", ofText Text.upper),
    ("str::trim", ofText Text.trim), ("str::from", fun d => .ok (text d.asText)),
    ("str::substring", substring),
    ("math::is_nan", testReal Float.isNaN), ("math::is_finite", testReal Float.isFinite),
    ("math::is_infinite", testReal Float.isInf), ("math::is_normal", testReal isNormal),
    ("math::abs", absolute), ("math::sqrt", ofReal Float.sqrt), ("math::cbrt", ofReal Float.cbrt),
    ("math::hypot", ofReals Real.hypotenuse), ("math::pow", ofReals Float.pow),
    ("math::exp", ofReal Float.exp), ("math::exp2", ofReal Float.exp2),
    ("math::ln", ofReal Float.log), ("math::log", ofReals fun x b => x.log / b.log),
    ("math::log2", ofReal Float.log2), ("math::log10", ofReal Float.log10),
    ("math::sin", ofReal Float.sin), ("math::cos", ofReal Float.cos),
    ("math::tan", ofReal Float.tan), ("math::asin", ofReal Float.asin),
    ("math::acos", ofReal Float.acos), ("math::atan", ofReal Float.atan),
    ("math::atan2", ofReals Float.atan2), ("math::sinh", ofReal Float.sinh),
    ("math::cosh", ofReal Float.cosh), ("math::tanh", ofReal Float.tanh),
    ("math::asinh", ofReal Real.arsinh), ("math::acosh", ofReal Real.arcosh),
    ("math::atanh", ofReal Real.artanh)]

def find? (name : String) : Option (Datum → Evaluated) := table.lookup name

end Function

end BuildGate.Expression
