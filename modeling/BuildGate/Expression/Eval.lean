import BuildGate.Decimal.Remainder
import BuildGate.Expression.Function
import BuildGate.Expression.Tree

namespace BuildGate.Expression

abbrev Scope := Dict Datum

namespace Operator

open Datum

def checked (operation : Arithmetic) (a b : Int) : Evaluated :=
  let result? : Option Int :=
    match operation with
    | .add => some (a + b)
    | .subtract => some (a - b)
    | .multiply => some (a * b)
    | .divide => if b = 0 then none else some (a.tdiv b)
    | .modulate => if b = 0 ∨ a = Decimal.minInt64 ∧ b = -1 then none else some (a.tmod b)
  match result?.filter Decimal.fitsInt64 with
  | some n => .ok (int n)
  | none => .error (.outOfRange operation a b)

def realArithmetic : Arithmetic → Float → Float → Float
  | .add, x, y => x + y
  | .subtract, x, y => x - y
  | .multiply, x, y => x * y
  | .divide, x, y => x / y
  | .modulate, x, y => Decimal.floatRemainder x y

/-- Two numbers: whole if both are, binary64 otherwise. -/
def arithmetic (operation : Arithmetic) (a b : Datum) : Evaluated := do
  let x ← a.asNumber
  let y ← b.asNumber
  match a, b with
  | int m, int n => checked operation m n
  | _, _ => return float (realArithmetic operation x y)

def requireNumberOrText : Datum → Except Error Unit
  | text _ | int _ | float _ => .ok ()
  | d => d.need .numberOrText

def sum (a b : Datum) : Evaluated := do
  requireNumberOrText a
  requireNumberOrText b
  match a, b with
  | text s, text t => return text (s ++ t)
  | text _, _ | _, text _ => .error (.mixedKinds "Add" [a.kind, b.kind])
  | _, _ => arithmetic .add a b

def comparison (onText : String → String → Bool) (onInt : Int → Int → Bool)
    (onFloat : Float → Float → Bool) (a b : Datum) : Evaluated := do
  requireNumberOrText a
  requireNumberOrText b
  match a, b with
  | text s, text t => return boolean (onText s t)
  | int m, int n => return boolean (onInt m n)
  | _, _ =>
    let x ← a.asNumber
    let y ← b.asNumber
    return boolean (onFloat x y)

def connective (f : Bool → Bool → Bool) (a b : Datum) : Evaluated := do
  let x ← a.asBoolean
  let y ← b.asBoolean
  return boolean (f x y)

def negative : Datum → Evaluated
  | int n => if n = Decimal.minInt64 then .error (.negation n) else .ok (int (-n))
  | d => d.asNumber.map fun x => float (-x)

def exponential (a b : Datum) : Evaluated := do
  let x ← a.asNumber
  let y ← b.asNumber
  return float (x.pow y)

def unary (f : Datum → Evaluated) : List Datum → Evaluated
  | [a] => f a
  | operands => .error (.argumentCount 1 operands.length)

def binary (f : Datum → Datum → Evaluated) : List Datum → Evaluated
  | [a, b] => f a b
  | operands => .error (.argumentCount 2 operands.length)

def apply (scope : Scope) : Operator → List Datum → Evaluated
  | root, operands => .ok (operands.head?.getD empty)
  | add, operands => binary sum operands
  | subtract, operands => binary (arithmetic .subtract) operands
  | negate, operands => unary negative operands
  | multiply, operands => binary (arithmetic .multiply) operands
  | divide, operands => binary (arithmetic .divide) operands
  | modulate, operands => binary (arithmetic .modulate) operands
  | power, operands => binary exponential operands
  | equal, operands => binary (fun a b => .ok (boolean (a.same b))) operands
  | unequal, operands => binary (fun a b => .ok (boolean (!a.same b))) operands
  | greater, operands => binary (comparison (· > ·) (· > ·) (· > ·)) operands
  | less, operands => binary (comparison (· < ·) (· < ·) (· < ·)) operands
  | greaterOrEqual, operands => binary (comparison (· ≥ ·) (· ≥ ·) (· ≥ ·)) operands
  | lessOrEqual, operands => binary (comparison (· ≤ ·) (· ≤ ·) (· ≤ ·)) operands
  | and, operands => binary (connective (· && ·)) operands
  | or, operands => binary (connective (· || ·)) operands
  | not, operands => unary (fun a => a.asBoolean.map fun flag => boolean !flag) operands
  | assign _, _ => .error .assignment
  | Operator.tuple, operands => .ok (Datum.tuple operands)
  | chain, operands =>
    match operands.getLast? with
    | some last => .ok last
    | none => .error (.argumentCount 1 0)
  | constant value, [] => .ok value
  | target name, [] => .ok (text name)
  | lookup name, [] =>
    match scope.get? name with
    | some value => .ok value
    | none => .error (.unboundVariable name)
  | constant _, operands | target _, operands | lookup _, operands =>
    .error (.argumentCount 0 operands.length)
  | function name, operands =>
    unary (fun a =>
      match Function.find? name with
      | some f => f a
      | none => .error (.unboundFunction name)) operands

end Operator

namespace Node

mutual

def eval (scope : Scope) : Node → Evaluated
  | mk op operands => (evalAll scope operands).bind (op.apply scope)

/-- The data of operands that stand from right to left, from left to right. -/
def evalAll (scope : Scope) : List Node → Except Error (List Datum)
  | [] => .ok []
  | last :: before =>
    (evalAll scope before).bind fun data => (eval scope last).map fun d => data ++ [d]

end

end Node

def evaluate (scope : Scope) (expression : String) : Evaluated :=
  ((Token.read expression).bind Node.ofTokens).bind (Node.eval scope)

def holds (scope : Scope) (condition : String) : Except Error Bool :=
  (evaluate scope condition).bind Datum.asBoolean

end BuildGate.Expression
