import BuildGate.Expression.Scope
import BuildGate.Rule.Context

namespace BuildGate

abbrev Evaluator := String → Except String Value

/-- The value of an environment variable. An entry is found by any of its leading parts that ends
    before an equals sign. -/
def Host.variable? (host : Host) (name : String) : Option String :=
  if name.isEmpty then none
  else
    host.environment.entries.findSome? fun entry =>
      let whole := (entry.1 ++ "=" ++ entry.2).toList
      let start := name.toList ++ ['=']
      if start.isPrefixOf whole then some (String.ofList (whole.drop start.length)) else none

namespace Evaluator

def environmentMark : List Char := "env.".toList

/-- Looks a property up by its key, then an environment variable behind `env.`, then computes. -/
def ofProperties (properties : Dict String) (host : Host) : Evaluator := fun written =>
  let expression := Text.trim written
  match properties.get? expression with
  | some value => .ok (.text value)
  | none =>
    if environmentMark.isPrefixOf expression.toList then
      let name := String.ofList (expression.toList.drop environmentMark.length)
      match host.variable? name with
      | some value => .ok (.text value)
      | none => .error ("environment variable '" ++ name ++ "' is not set")
    else
      match Expression.evaluate (Expression.Scope.ofProperties properties) expression with
      | .ok d => .ok d.toValue
      | .error e => .error e.message

end Evaluator

end BuildGate
