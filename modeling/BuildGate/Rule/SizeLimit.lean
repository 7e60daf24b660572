import BuildGate.Binding.Coerce
import BuildGate.Rule.Basic

namespace BuildGate

structure SizeLimit where
  maxSize : Int
  label : String
  deriving DecidableEq, Repr

namespace SizeLimit

def empty : SizeLimit := ⟨0, ""⟩

def schema : Schema SizeLimit where
  name := "SizeLimitParams"
  fields := [
    .of "max_size" false Decode.uint64 fun v l => { l with maxSize := v },
    .of "label" false Decode.text fun v l => { l with label := v }]
  closed := true
  initial := empty
  countsItems := true

def verdict (l : SizeLimit) : Verdict :=
  if l.maxSize < 10 then .violation (toString l.maxSize ++ " is too small") else .passed

def levelText : Option RuleLog → String
  | none => "None"
  | some log =>
    match log.level with
    | .warn => "Some(Warn)"
    | .error => "Some(Error)"

/-- `heard` tells whether the rule had a log when it took its parameters. -/
def description (l : SizeLimit) (heard : Bool) (log : Option RuleLog) : String :=
  "max_size=" ++ toString l.maxSize ++ " label=" ++ l.label ++ " level=" ++ levelText log
    ++ " log_first=" ++ toString heard

def rule (l : SizeLimit) (heard : Bool) (log : Option RuleLog) : Rule :=
  { Rule.plain (fun _ => .silent l.verdict) with description := some (l.description heard log) }

def blueprint : Blueprint where
  unconfigured := fun log => empty.rule false log
  configure := fun log params =>
    ((log.map fun log => log.debug "binding size limit").toList,
      (schema.decodeParams params).map fun l => l.rule log.isSome log)

end SizeLimit

end BuildGate
