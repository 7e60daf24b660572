import BuildGate.Enforcement.Failure
import BuildGate.Rule.Basic
import BuildGate.Rule.Name

namespace BuildGate

structure Registration where
  implementation : String
  description : String
  blueprint : Blueprint

structure RuleEntry extends Registration where
  name : String

structure Registry where
  components : Dict Registration
  types : Dict Registration

structure Resolved where
  name : String
  implementation : String
  blueprint : Blueprint

namespace Registry

def empty : Registry := ⟨∅, ∅⟩

def registerComponent (r : Registry) (name : String) (registration : Registration) : Registry :=
  { r with components := r.components.insert (RuleName.canonical name) registration }

def registerType (r : Registry) (registration : Registration) : Registry :=
  { r with types := r.types.insert registration.implementation registration }

def register (r : Registry) (entry : RuleEntry) : Registry :=
  (r.registerComponent entry.name entry.toRegistration).registerType entry.toRegistration

def ofEntries (entries : List RuleEntry) : Registry := entries.foldl register empty

def typeReference (name : String) (implementation : Option String) : String :=
  match implementation with
  | some given =>
    if Text.isBlankText given then RuleName.conventional name else Text.trim given
  | none => RuleName.conventional name

def create (r : Registry) (name : String) (implementation : Option String) :
    List Notice × Except Failure Resolved :=
  let canonical := RuleName.canonical name
  match r.components.get? canonical with
  | some found =>
    ([.resolvedByName canonical], .ok ⟨canonical, found.implementation, found.blueprint⟩)
  | none =>
    let reference := typeReference name implementation
    match r.types.get? reference with
    | some found =>
      ([.resolvedByType canonical reference],
        .ok ⟨canonical, found.implementation, found.blueprint⟩)
    | none => ([], .error (.creation canonical reference))

/-- The name alone is enough to find a rule. -/
def contains (r : Registry) (name : String) : Bool :=
  r.components.contains (RuleName.canonical name) || r.types.contains (RuleName.conventional name)

def list (r : Registry) : List (String × String × String) :=
  r.components.entries.map fun entry => (entry.1, entry.2.implementation, entry.2.description)

end Registry

end BuildGate
