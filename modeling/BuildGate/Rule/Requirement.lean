import BuildGate.Binding.Coerce
import BuildGate.Binding.Evaluator
import BuildGate.Pattern.Reader
import BuildGate.Rule.Basic

namespace BuildGate

inductive ValueSource where
  | property
  | environment
  deriving DecidableEq, Repr

namespace ValueSource

def noun : ValueSource → String
  | property => "Property"
  | environment => "Environment variable"

def value? (source : ValueSource) (ctx : Context) (name : String) : Option String :=
  match source with
  | property => ctx.property? name
  | environment => ctx.host.variable? name

def ruleName : ValueSource → String
  | property => "requireProperty"
  | environment => "requireEnvironmentVariable"

def nameKey : ValueSource → String
  | property => "property"
  | environment => "variable_name"

end ValueSource

structure Requirement where
  name : String
  /-- An empty pattern is none. -/
  pattern : Option String
  patternMessage : Option String
  message : Option String
  deriving DecidableEq, Repr

namespace Requirement

def of (name : String) : Requirement := ⟨name, none, none, none⟩

def schema (source : ValueSource) : Schema Requirement where
  name :=
    match source with
    | .property => "RequirePropertyParams"
    | .environment => "RequireEnvironmentVariableParams"
  fields := [
    .of source.nameKey true Decode.text fun v r => { r with name := v },
    .of "regex" false (Decode.optional Decode.text) fun v r => { r with pattern := v },
    .of "regex_message" false (Decode.optional Decode.text)
      fun v r => { r with patternMessage := v },
    .of "message" false (Decode.optional Decode.text) fun v r => { r with message := v }]
  closed := true
  initial := of ""
  countsItems := true

def anchored (pattern : String) : String := "^(?:" ++ pattern ++ ")$"

def missingText (r : Requirement) (source : ValueSource) : String :=
  r.message.getD (source.noun ++ " \"" ++ r.name ++ "\" is required for this build.")

def mismatchText (r : Requirement) (source : ValueSource) (value pattern : String) : String :=
  r.patternMessage.getD
    (source.noun ++ " \"" ++ r.name ++ "\" evaluates to \"" ++ value
      ++ "\". This does not match the regular expression: " ++ pattern)

def invalidText (pattern : String) (fault : Pattern.Fault) : String :=
  "Invalid regular expression \"" ++ pattern ++ "\": " ++
    match fault with
    | .malformed => "regex parse error:\n    " ++ anchored pattern
    | .tooLarge =>
      "Compiled regex exceeds size limit of " ++ toString Pattern.Footprint.limit ++ " bytes."

def check (r : Requirement) (source : ValueSource) (value? : Option String) : Verdict :=
  match value? with
  | none => .violation (r.missingText source)
  | some value =>
    match r.pattern.filter (· ≠ "") with
    | none => .passed
    | some pattern =>
      match Pattern.read? (anchored pattern) with
      | .error fault => .fatal (invalidText pattern fault)
      | .ok compiled =>
        if compiled.occursIn value then .passed
        else .violation (r.mismatchText source value pattern)

def rule (r : Requirement) (source : ValueSource) : Rule :=
  { Rule.plain fun ctx => .silent (r.check source (source.value? ctx r.name)) with
    description := some (source.ruleName ++ " " ++ r.name) }

end Requirement

end BuildGate
