import BuildGate.Registry
import BuildGate.Rule.Condition
import BuildGate.Rule.FileList
import BuildGate.Rule.Requirement

namespace BuildGate

inductive Builtin where
  | alwaysPass
  | alwaysFail (message : Option String)
  | files (expectation : Expectation) (list : FileList)
  | value (source : ValueSource) (requirement : Requirement)
  | condition (c : Condition)
  deriving DecidableEq, Repr

namespace Builtin

def defaultFailure : String := "Always fails!"

def failureSchema : Schema (Option String) where
  name := "AlwaysFailParams"
  fields := [.of "message" false (Decode.optional Decode.text) fun v _ => v]
  closed := true
  initial := none
  countsItems := true

def rule (log : Option RuleLog) : Builtin → Rule
  | alwaysPass => Rule.plain fun _ => .silent .passed
  | alwaysFail message => Rule.plain fun _ => .silent (.violation (message.getD defaultFailure))
  | files expectation list => list.rule expectation log
  | value source requirement => requirement.rule source
  | condition c => c.rule log

def configure (params : Params) : Builtin → Except BindError Builtin
  | alwaysPass =>
    if params.isEmpty then .ok alwaysPass else .error (.unknownParameters params.keys)
  | alwaysFail _ => (failureSchema.decodeParams params).map alwaysFail
  | files expectation _ => (FileList.schema.decodeParams params).map (files expectation)
  | value source _ => ((Requirement.schema source).decodeParams params).map (value source)
  | condition _ => (Condition.schema.decodeParams params).map condition

def blueprint (b : Builtin) : Blueprint where
  unconfigured := fun log => b.rule log
  configure := fun log params => ([], (b.configure params).map (·.rule log))

def entry (name typeName description : String) (b : Builtin) : RuleEntry where
  name := name
  implementation := RuleName.defaultSpace ++ "::" ++ typeName
  description := description
  blueprint := b.blueprint

def entries : List RuleEntry :=
  [entry "alwaysPass" "AlwaysPass" "Always succeeds" alwaysPass,
    entry "alwaysFail" "AlwaysFail" "Always fails with the configured message" (alwaysFail none),
    entry "requireFilesExist" "RequireFilesExist" "Requires every listed file to exist"
      (files .present .empty),
    entry "requireFilesDontExist" "RequireFilesDontExist"
      "Requires none of the listed files to exist" (files .absent .empty),
    entry "requireProperty" "RequireProperty"
      "Requires a build property, optionally matching a regex" (value .property (.of "")),
    entry "requireEnvironmentVariable" "RequireEnvironmentVariable"
      "Requires an environment variable, optionally matching a regex"
      (value .environment (.of "")),
    entry "evaluateExpression" "EvaluateExpression"
      "Evaluates a boolean expression over the build properties" (condition (.of ""))]

end Builtin

def Registry.discover : List Notice × Registry :=
  ([.discovered Builtin.entries.length], .ofEntries Builtin.entries)

end BuildGate
