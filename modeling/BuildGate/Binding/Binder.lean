import BuildGate.Binding.Placeholder
import BuildGate.Enforcement.Failure
import BuildGate.Rule.Basic

namespace BuildGate.Binder

def levelKey : String := "level"

def failed (rule : String) (e : BindError) : Failure := .configuration rule e.message

def level (evaluate : Evaluator) (rule : String) (tree : Params) : Except Failure Severity :=
  match tree.get? levelKey with
  | none => .ok default
  | some raw =>
    match resolve evaluate raw with
    | .error e => .error (failed rule e)
    | .ok (.text text) => (Severity.parse text).mapError (failed rule)
    | .ok other => .error (failed rule (.invalidLevel other.compact))

/-- The parameters that a rule is handed: all but the severity, with their placeholders resolved. -/
def parameters (evaluate : Evaluator) (tree : Params) : Except BindError Params :=
  (resolveFields evaluate (tree.erase levelKey).entries).map Dict.ofList

def bind (evaluate : Evaluator) (name : String) (log : Option RuleLog) (blueprint : Blueprint)
    (tree : Params) : List Notice × Except Failure Rule :=
  match parameters evaluate tree with
  | .error e => ([], .error (failed name e))
  | .ok params =>
    match blueprint.configure log params with
    | (notices, .error e) => (notices, .error (failed name e))
    | (notices, .ok rule) => (notices ++ [.bound name params.size], .ok rule)

end BuildGate.Binder
