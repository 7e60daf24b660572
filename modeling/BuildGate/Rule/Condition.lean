import BuildGate.Binding.Coerce
import BuildGate.Expression.Scope
import BuildGate.Rule.Basic

namespace BuildGate

structure Condition where
  condition : String
  message : Option String
  deriving DecidableEq, Repr

namespace Condition

def of (condition : String) : Condition := ⟨condition, none⟩

def schema : Schema Condition where
  name := "EvaluateExpressionParams"
  fields := [
    .of "condition" true Decode.text fun v c => { c with condition := v },
    .of "message" false (Decode.optional Decode.text) fun v c => { c with message := v }]
  closed := true
  initial := of ""
  countsItems := true

def listing (properties : Dict String) : String :=
  "\x7b" ++ String.intercalate ", "
    (properties.entries.map fun entry =>
      Text.Quoted.encode entry.1 ++ ": " ++ Text.Quoted.encode entry.2) ++ "\x7d"

def notices (condition : String) (log : Option RuleLog) (holds : Bool) (ctx : Context) :
    List Notice :=
  match log with
  | none => []
  | some log =>
    log.debug ("Condition \"" ++ condition ++ "\" evaluated to " ++ toString holds)
      :: (if holds then []
          else [log.atLevel
            ("Properties seen by \"" ++ condition ++ "\": " ++ listing ctx.properties)])

def run (c : Condition) (log : Option RuleLog) (ctx : Context) : Execution :=
  let condition := Text.trim c.condition
  if condition.isEmpty then .silent (.fatal "The condition to evaluate is empty.")
  else
    match Expression.holds (.ofProperties ctx.properties) condition with
    | .error e =>
      .silent (.fatal ("Unable to evaluate condition \"" ++ condition ++ "\": " ++ e.message))
    | .ok holds =>
      ⟨notices condition log holds ctx,
        if holds then .passed
        else .violation (c.message.getD ("Condition \"" ++ condition ++ "\" evaluated to false."))⟩

def rule (c : Condition) (log : Option RuleLog) : Rule :=
  { Rule.plain (c.run log) with description := some ("evaluateExpression " ++ c.condition) }

end Condition

end BuildGate
