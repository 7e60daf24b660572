import BuildGate.Enforcement.Declaration
import BuildGate.Enforcement.Options
import BuildGate.Registry

namespace BuildGate

structure Descriptor where
  name : String
  implementation : String
  rule : Rule
  level : Severity

structure Enforcer where
  registry : Registry
  evaluate : Evaluator
  options : Options

namespace Options

def leavesOut (options : Options) (d : Declaration) : Bool :=
  options.skipRules.any fun name => RuleName.canonical name == RuleName.canonical d.name

end Options

namespace Enforcer

def prepareOne (enforcer : Enforcer) (d : Declaration) :
    List Notice × Except Failure Descriptor :=
  match enforcer.registry.create d.name d.implementation with
  | (notices, .error e) => (notices, .error e)
  | (notices, .ok resolved) =>
    match Binder.level enforcer.evaluate resolved.name d.config with
    | .error e => (notices, .error e)
    | .ok level =>
      let (more, bound) :=
        Binder.bind enforcer.evaluate resolved.name (some ⟨resolved.name, level⟩)
          resolved.blueprint d.config
      (notices ++ more,
        bound.map fun rule => ⟨resolved.name, resolved.implementation, rule, level⟩)

def prepare (enforcer : Enforcer) : List Declaration → List Notice × Except Failure (List Descriptor)
  | [] => ([], .ok [])
  | d :: rest =>
    if enforcer.options.leavesOut d then
      let (notices, descriptors) := prepare enforcer rest
      (.leftOut (RuleName.canonical d.name) :: notices, descriptors)
    else
      match enforcer.prepareOne d with
      | (notices, .error e) => (notices, .error e)
      | (notices, .ok descriptor) =>
        let (more, descriptors) := prepare enforcer rest
        (notices ++ more, descriptors.map (descriptor :: ·))

end Enforcer

end BuildGate
