import BuildGate.Expression.Token

namespace BuildGate.Expression

inductive Operator where
  | root
  | add
  | subtract
  | negate
  | multiply
  | divide
  | modulate
  | power
  | equal
  | unequal
  | greater
  | less
  | greaterOrEqual
  | lessOrEqual
  | and
  | or
  | not
  | assign (by_ : Assignment)
  | tuple
  | chain
  | constant (value : Datum)
  | target (name : String)
  | lookup (name : String)
  | function (name : String)

namespace Operator

def precedence : Operator → Nat
  | root | constant _ | target _ | lookup _ => 200
  | function _ => 190
  | power => 120
  | negate | not => 110
  | multiply | divide | modulate => 100
  | add | subtract => 95
  | equal | unequal | greater | less | greaterOrEqual | lessOrEqual => 80
  | and => 75
  | or => 70
  | assign _ => 50
  | tuple => 40
  | chain => 0

def arity : Operator → Option Nat
  | tuple | chain => none
  | constant _ | target _ | lookup _ => some 0
  | root | negate | not | function _ => some 1
  | _ => some 2

def isRoot : Operator → Bool
  | root => true
  | _ => false

def isSequence : Operator → Bool
  | tuple | chain => true
  | _ => false

def isLeaf (op : Operator) : Bool := op.arity == some 0

def isUnary (op : Operator) : Bool := op.arity == some 1 && !op.isRoot

def groupsRight : Operator → Bool
  | assign .plain | function _ => true
  | _ => false

def sameSequence : Operator → Operator → Bool
  | tuple, tuple | chain, chain => true
  | _, _ => false

/-- A new node belongs below an operator that binds less tightly than it does. -/
def admits (op new : Operator) : Bool :=
  op.precedence < new.precedence || new.isUnary
    || (op.precedence == new.precedence && op.groupsRight && new.groupsRight)

end Operator

inductive Node where
  | mk (operator : Operator) (rightToLeft : List Node)

namespace Node

def operator : Node → Operator
  | mk op _ => op

def rightToLeft : Node → List Node
  | mk _ operands => operands

def operands (node : Node) : List Node := node.rightToLeft.reverse

def leaf (op : Operator) : Node := mk op []

def root : Node := leaf .root

def append (node operand : Node) : Node := mk node.operator (operand :: node.rightToLeft)

/-- Takes an operator's rightmost operand away and gives it to the new node, which takes its place. -/
def rotate (op : Operator) (last : Node) (before : List Node) (new : Node) : Except Error Node :=
  if new.operator.isLeaf then .error .appendedToLeaf
  else if op.isRoot && (!before.isEmpty || new.operator.isRoot) then .error .missingOperator
  else if new.operator.isRoot && (!new.rightToLeft.isEmpty || last.operator.isRoot) then
    .error .missingOperator
  else .ok (mk op (new.append last :: before))

/-- Puts a new node at the right edge of the tree, above the operands that bind more tightly. At the
    top of a group it is admitted whatever its precedence. -/
def insert (atTop : Bool) (new : Node) : Node → Except Error Node
  | mk op operands =>
    if op.admits new.operator || atTop then
      if op.isLeaf then .error .appendedToLeaf
      else if op.arity == some operands.length then
        match operands with
        | [] => .error .appendedToLeaf
        | last :: before =>
          if last.operator.admits new.operator then
            (insert false new last).map fun last => mk op (last :: before)
          else rotate op last before new
      else .ok (mk op (new :: operands))
    else .error .precedence

end Node

abbrev Stack := List Node

namespace Stack

/-- Groups and sequences that bind more tightly than a new sequence become operands of one another. -/
def collapseTo (precedence : Nat) (inner : Node) : Stack → Except Error (Node × Stack)
  | [] => .error .unmatchedClosing
  | outer :: stack =>
    if precedence < outer.operator.precedence then collapseTo precedence (outer.append inner) stack
    else .ok (inner, outer :: stack)

def closeOnto (node : Node) : Stack → Except Error Stack
  | [] => if node.operator.isRoot then .ok [node] else .error .unmatchedClosing
  | outer :: stack =>
    if node.operator.isRoot then .ok (node :: outer :: stack)
    else closeOnto (outer.append node) stack

def closeSequences : Stack → Except Error Stack
  | [] => .ok []
  | node :: stack => closeOnto node stack

def addSequence (new : Operator) (top : Node) (stack : Stack) : Except Error Stack :=
  if top.operator.sameSequence new then .ok (top.append Node.root :: stack)
  else if top.operator.isRoot then
    .ok (((Node.leaf new).append top).append Node.root :: Node.root :: stack)
  else if top.operator.precedence < new.precedence then
    match top.rightToLeft with
    | [] => .error .unmatchedClosing
    | last :: before =>
      .ok (((Node.leaf new).append last).append Node.root :: .mk top.operator before :: stack)
  else
    (collapseTo new.precedence top stack).map fun (inner, stack) =>
      (Node.leaf new).append inner :: stack

def add (new : Node) : Stack → Except Error Stack
  | [] => .error .unmatchedClosing
  | top :: stack =>
    if new.operator.isSequence then addSequence new.operator top stack
    else if top.operator.isSequence then
      match top.rightToLeft with
      | [] => .error .unmatchedClosing
      | last :: before =>
        (Node.insert true new last).map fun last => .mk top.operator (last :: before) :: stack
    else (Node.insert true new top).map (· :: stack)

def nodeOf (afterValue : Bool) (next : Option Token) : Token → Option Operator
  | .plus => some .add
  | .minus => some (if afterValue then .subtract else .negate)
  | .star => some .multiply
  | .slash => some .divide
  | .percent => some .modulate
  | .hat => some .power
  | .equal => some .equal
  | .unequal => some .unequal
  | .greater => some .greater
  | .less => some .less
  | .greaterOrEqual => some .greaterOrEqual
  | .lessOrEqual => some .lessOrEqual
  | .and => some .and
  | .or => some .or
  | .not => some .not
  | .assign by_ => some (.assign by_)
  | .comma => some .tuple
  | .semicolon => some .chain
  | .identifier name =>
    match next with
    | some token =>
      if token.isAssignment then some (.target name)
      else if token.startsValue then some (.function name)
      else some (.lookup name)
    | none => some (.lookup name)
  | .literal value => some (.constant value)
  | .opening | .closing => none

def step (afterValue : Bool) (next : Option Token) (token : Token) (stack : Stack) :
    Except Error Stack :=
  match token with
  | .opening => .ok (Node.root :: stack)
  | .closing =>
    if stack.length ≤ 1 then .error .unmatchedClosing
    else
      match closeSequences stack with
      | .error e => .error e
      | .ok [] => .error .unmatchedClosing
      | .ok (group :: stack) => add group stack
  | token =>
    match nodeOf afterValue next token with
    | some op => add (Node.leaf op) stack
    | none => .ok stack

def steps (afterValue : Bool) : List Token → Stack → Except Error Stack
  | [], stack => .ok stack
  | token :: rest, stack =>
    match step afterValue rest.head? token stack with
    | .ok stack => steps token.endsValue rest stack
    | .error e => .error e

end Stack

def Node.ofTokens (tokens : List Token) : Except Error Node :=
  match (Stack.steps false tokens [Node.root]).bind Stack.closeSequences with
  | .error e => .error e
  | .ok [tree] => .ok tree
  | .ok (_ :: _) => .error .unmatchedOpening
  | .ok [] => .error .unmatchedClosing

end BuildGate.Expression
