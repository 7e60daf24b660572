import BuildGate.Expression.Eval

namespace BuildGate.Expression

/-- Adds a name, or gives it a new datum of the kind it has; a datum of another kind is ignored. -/
def Scope.define (scope : Scope) (name : String) (d : Datum) : Scope :=
  match scope.get? name with
  | some old => if old.kind = d.kind then scope.insert name d else scope
  | none => scope.insert name d

def identifierOf (key : String) : String :=
  String.ofList (key.toList.map fun c => if c = '.' ∨ c = '-' then '_' else c)

/-- Every property under its identifier, in ascending order of the keys. -/
def Scope.ofProperties (properties : Dict String) : Scope :=
  properties.entries.foldl
    (fun scope entry => scope.define (identifierOf entry.1) (Datum.ofProperty entry.2)) ∅

end BuildGate.Expression
