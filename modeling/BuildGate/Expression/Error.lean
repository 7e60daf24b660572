import BuildGate.Expression.Datum

namespace BuildGate.Expression

inductive Need where
  | text
  | int
  | boolean
  | tuple
  | number
  | numberOrText
  | tupleOf (length : Nat)
  | tupleBetween (least most : Nat)
  | oneOf (kinds : List Kind)
  deriving DecidableEq, Repr

inductive Arithmetic where
  | add
  | subtract
  | multiply
  | divide
  | modulate
  deriving DecidableEq, Repr

inductive Error where
  | unboundVariable (name : String)
  | unboundFunction (name : String)
  | unmet (need : Need) (actual : Datum)
  | mixedKinds (operator : String) (kinds : List Kind)
  | outOfRange (operation : Arithmetic) (left right : Int)
  | negation (operand : Int)
  | argumentCount (expected actual : Nat)
  | unmatchedOpening
  | unmatchedClosing
  | unmatchedQuote
  | strayPiece (first second : String)
  | lonePiece (first : String)
  | illegalEscape (text : String)
  | assignment
  | unmatchedComment
  | outOfBounds
  | appendedToLeaf
  | precedence
  | missingOperator

namespace Need

def phrase : Need → String
  | text => "a Value::String"
  | int => "a Value::Int"
  | boolean => "a Value::Boolean"
  | tuple => "a Value::Tuple"
  | number => "a Value::Float or Value::Int"
  | numberOrText => "a Value::Number or a Value::String"
  | tupleOf length => "a Value::Tuple of length " ++ toString length
  | tupleBetween least most =>
    "a Value::Tuple of length " ++ toString least ++ " to " ++ toString most
  | oneOf kinds => "one of [" ++ String.intercalate ", " (kinds.map Kind.name) ++ "]"

end Need

namespace Arithmetic

def gerund : Arithmetic → String
  | add => "adding"
  | subtract => "subtracting"
  | multiply => "multiplying"
  | divide => "dividing"
  | modulate => "modulating"

def sign : Arithmetic → String
  | add => "+"
  | subtract => "-"
  | multiply => "*"
  | divide => "/"
  | modulate => "%"

end Arithmetic

namespace Error

def message : Error → String
  | unboundVariable name =>
    "Variable identifier is not bound to anything by context: " ++ Text.Quoted.encode name ++ "."
  | unboundFunction name =>
    "Function identifier is not bound to anything by context: " ++ Text.Quoted.encode name ++ "."
  | unmet need actual => "Expected " ++ need.phrase ++ ", but got " ++ actual.describe ++ "."
  | mixedKinds operator kinds =>
    "The operator " ++ operator ++ " was called with a wrong combination of types: ["
      ++ String.intercalate ", " (kinds.map Kind.name) ++ "]"
  | outOfRange operation left right =>
    "Error " ++ operation.gerund ++ " " ++ toString left ++ " " ++ operation.sign ++ " "
      ++ toString right
  | negation operand => "Error negating -" ++ toString operand
  | argumentCount expected actual =>
    "An operator expected " ++ toString expected ++ " arguments, but got " ++ toString actual ++ "."
  | unmatchedOpening => "Found an unmatched opening parenthesis '('."
  | unmatchedClosing => "Found an unmatched closing parenthesis ')'."
  | unmatchedQuote => "Found an unmatched double quote '\"'"
  | strayPiece first second =>
    "Found a partial token '" ++ first ++ "' that should not be followed by '" ++ second ++ "'."
  | lonePiece first =>
    "Found a partial token '" ++ first ++ "' that should be followed by another partial token."
  | illegalEscape text => "Illegal escape sequence: " ++ text
  | assignment => "Cannot manipulate context"
  | unmatchedComment => "Error: unmatched inline comment"
  | outOfBounds => "Tried to access a tuple or string at an invalid index"
  | appendedToLeaf => "Tried to append a node to a leaf node."
  | precedence =>
    "Tried to append a child to a node such that the precedence of the child is not higher."
  | missingOperator =>
    "Found an opening parenthesis that is preceded by something that does not take any arguments"
      ++ " on the right, or found a closing parenthesis that is succeeded by something that does"
      ++ " not take any arguments on the left."

end Error

end BuildGate.Expression
