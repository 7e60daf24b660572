import BuildGate.Document.Decode
import BuildGate.Binding.Binder

namespace BuildGate

structure Declaration where
  name : String
  implementation : Option String
  config : Params

namespace Declaration

def new (name : String) : Declaration := ⟨name, none, ∅⟩

def withImplementation (d : Declaration) (implementation : String) : Declaration :=
  { d with implementation := some implementation }

def withParam (d : Declaration) (key : String) (v : Value) : Declaration :=
  { d with config := d.config.insert key v }

def withLevel (d : Declaration) (level : Severity) : Declaration :=
  d.withParam Binder.levelKey (.text level.name)

/-- The declaration as one record; a parameter takes the place of a part with the same key. -/
def toValue (d : Declaration) : Value :=
  let parts : Dict Value := (∅ : Dict Value).insert "name" (.text d.name)
  let parts :=
    match d.implementation with
    | some implementation => parts.insert "implementation" (.text implementation)
    | none => parts
  .ofDict (parts.insertAll d.config.entries)

structure Partial where
  name : Option String
  implementation : Option (Option String)
  config : List (String × Value)

def readFields (found : Partial) : List (String × Value) → Decoded Partial
  | [] => .ok found
  | (key, v) :: rest => do
    if key = "name" then
      let name ← (Decode.text v).mapError (·.under key)
      readFields { found with name := some name } rest
    else if key = "implementation" then
      let implementation ← (Decode.optional Decode.text v).mapError (·.under key)
      readFields { found with implementation := some implementation } rest
    else readFields { found with config := found.config ++ [(key, v.finite)] } rest

def decode : Value → Decoded Declaration
  | .record fields => do
    let found ← readFields ⟨none, none, []⟩ fields
    match found.name with
    | none => Decode.fail (.missingField "name")
    | some name => return ⟨name, found.implementation.getD none, .ofList found.config⟩
  | v => Decode.mistyped v "struct RuleDeclaration"

end Declaration

end BuildGate
