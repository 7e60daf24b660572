import BuildGate.Decimal.Layout
import BuildGate.Decimal.Read
import BuildGate.Document.Value
import BuildGate.Text.Quoted

namespace BuildGate.Expression

inductive Datum where
  | text (content : String)
  | float (number : Float)
  | int (number : Int)
  | boolean (flag : Bool)
  | tuple (items : List Datum)
  | empty
  deriving Inhabited

inductive Kind where
  | text
  | float
  | int
  | boolean
  | tuple
  | empty
  deriving DecidableEq, Repr

namespace Kind

def name : Kind → String
  | text => "String"
  | float => "Float"
  | int => "Int"
  | boolean => "Boolean"
  | tuple => "Tuple"
  | empty => "Empty"

def word : Kind → String
  | text => "string"
  | float => "float"
  | int => "int"
  | boolean => "boolean"
  | tuple => "tuple"
  | empty => "empty"

end Kind

namespace Datum

def kind : Datum → Kind
  | text _ => .text
  | float _ => .float
  | int _ => .int
  | boolean _ => .boolean
  | tuple _ => .tuple
  | empty => .empty

def boolText (flag : Bool) : String := if flag then "true" else "false"

mutual

def describe : Datum → String
  | text content => "String(" ++ Text.Quoted.encode content ++ ")"
  | float number => "Float(" ++ Decimal.Layout.described.render number ++ ")"
  | int number => "Int(" ++ toString number ++ ")"
  | boolean flag => "Boolean(" ++ boolText flag ++ ")"
  | tuple items => "Tuple([" ++ String.intercalate ", " (describeAll items) ++ "])"
  | empty => "Empty"

def describeAll : List Datum → List String
  | [] => []
  | item :: items => item.describe :: describeAll items

end

mutual

def display : Datum → String
  | text content => "\"" ++ content ++ "\""
  | float number => Decimal.Layout.bare.render number
  | int number => toString number
  | boolean flag => boolText flag
  | tuple items => "(" ++ String.intercalate ", " (displayAll items) ++ ")"
  | empty => "()"

def displayAll : List Datum → List String
  | [] => []
  | item :: items => item.display :: displayAll items

end

def asText : Datum → String
  | text content => content
  | d => d.display

mutual

/-- Equal kind and equal content; numbers of different kinds are never the same. -/
def same : Datum → Datum → Bool
  | text a, text b => a == b
  | float a, float b => a == b
  | int a, int b => a == b
  | boolean a, boolean b => a == b
  | tuple as, tuple bs => sameAll as bs
  | empty, empty => true
  | _, _ => false

def sameAll : List Datum → List Datum → Bool
  | [], [] => true
  | a :: as, b :: bs => a.same b && sameAll as bs
  | _, _ => false

end

mutual

def toValue : Datum → Value
  | text content => .text content
  | float number => Value.ofFloat number
  | int number => .int number
  | boolean flag => .bool flag
  | tuple items => .list (toValues items)
  | empty => .null

def toValues : List Datum → List Value
  | [] => []
  | item :: items => item.toValue :: toValues items

end

/-- A property as a datum: a whole number, a number or a truth value where its text is one. -/
def ofProperty (raw : String) : Datum :=
  match Decimal.int64? raw with
  | some n => int n
  | none =>
    match Decimal.float? raw with
    | some x => float x
    | none =>
      if raw = "true" then boolean true
      else if raw = "false" then boolean false
      else text raw

end Datum

end BuildGate.Expression
