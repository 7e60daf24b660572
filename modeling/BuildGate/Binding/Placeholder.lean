import BuildGate.Binding.Error
import BuildGate.Binding.Evaluator
import BuildGate.Document.Printer

namespace BuildGate

inductive Segment where
  | plain (c : Char)
  | escape (expression : List Char)
  | placeholder (expression : List Char)
  deriving DecidableEq, Repr

namespace Segment

structure Opened where
  escaped : Bool
  held : List Char

def Opened.close (o : Opened) : Segment :=
  if o.escaped then escape o.held.reverse else placeholder o.held.reverse

def Opened.asPlain (o : Opened) : List Segment :=
  ((if o.escaped then ['$', '$', '{'] else ['$', '{']) ++ o.held.reverse).map plain

def scan : Option Opened → List Char → List Segment
  | none, [] => []
  | some o, [] => o.asPlain
  | some o, c :: rest =>
    if c = '}' then o.close :: scan none rest else scan (some { o with held := c :: o.held }) rest
  | none, '$' :: '$' :: '{' :: rest => scan (some ⟨true, []⟩) rest
  | none, '$' :: '{' :: rest => scan (some ⟨false, []⟩) rest
  | none, c :: rest => plain c :: scan none rest

def ofText (text : String) : List Segment := scan none text.toList

def written (expression : List Char) : List Char := ['$', '{'] ++ expression ++ ['}']

end Segment

def resolvePlaceholder (evaluate : Evaluator) (expression : List Char) : Except BindError Value :=
  match evaluate (String.ofList expression) with
  | .ok v => .ok v
  | .error reason => .error (.unresolved (String.ofList expression) reason)

def Value.inText : Value → String
  | .text content => content
  | v => v.compact

namespace Segment

def resolve (evaluate : Evaluator) : Segment → Except BindError (List Char)
  | plain c => .ok [c]
  | escape expression => .ok (written expression)
  | placeholder expression =>
    (resolvePlaceholder evaluate expression).map fun v => v.inText.toList

def resolveAll (evaluate : Evaluator) : List Segment → Except BindError (List Char)
  | [] => .ok []
  | segment :: rest =>
    match segment.resolve evaluate with
    | .error e => .error e
    | .ok start => (resolveAll evaluate rest).map (start ++ ·)

end Segment

/-- A text that is one placeholder and nothing else has the value of that placeholder; any other text
    becomes text. -/
def resolveText (evaluate : Evaluator) (text : String) : Except BindError Value :=
  match Segment.ofText text with
  | [.placeholder expression] => resolvePlaceholder evaluate expression
  | segments => (Segment.resolveAll evaluate segments).map fun cs => .text (String.ofList cs)

mutual

def resolve (evaluate : Evaluator) : Value → Except BindError Value
  | .text content => resolveText evaluate content
  | .list items => (resolveItems evaluate items).map .list
  | .record fields => (resolveFields evaluate fields).map .record
  | .null => .ok .null
  | .bool flag => .ok (.bool flag)
  | .int number => .ok (.int number)
  | .float number => .ok (.float number)

def resolveItems (evaluate : Evaluator) : List Value → Except BindError (List Value)
  | [] => .ok []
  | item :: rest =>
    match resolve evaluate item with
    | .error e => .error e
    | .ok item => (resolveItems evaluate rest).map (item :: ·)

def resolveFields (evaluate : Evaluator) :
    List (String × Value) → Except BindError (List (String × Value))
  | [] => .ok []
  | (key, v) :: rest =>
    match resolve evaluate v with
    | .error e => .error e
    | .ok v => (resolveFields evaluate rest).map ((key, v) :: ·)

end

end BuildGate
