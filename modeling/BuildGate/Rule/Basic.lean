import BuildGate.Binding.Error
import BuildGate.Log.Notice
import BuildGate.Rule.Context

namespace BuildGate

structure EarlierRun where
  implementation : String
  cacheId : String
  deriving DecidableEq, Repr

inductive Verdict where
  | passed
  | violation (message : String)
  | fatal (message : String)
  deriving DecidableEq, Repr

structure Execution where
  notices : List Notice
  verdict : Verdict
  deriving DecidableEq, Repr

def Execution.silent (verdict : Verdict) : Execution := ⟨[], verdict⟩

structure Rule where
  run : Context → Execution
  /-- Rules of one implementation with the same id make the same check. -/
  cacheId : Option String
  isCacheable : Bool
  accepts : EarlierRun → Bool
  description : Option String

namespace Rule

def plain (run : Context → Execution) : Rule where
  run := run
  cacheId := none
  isCacheable := false
  accepts := fun _ => true
  description := none

/-- The rule with a cache id; having one makes it cacheable. -/
def withCacheId (rule : Rule) (id : Option String) : Rule :=
  { rule with cacheId := id, isCacheable := id.isSome }

end Rule

structure Blueprint where
  unconfigured : Option RuleLog → Rule
  configure : Option RuleLog → Params → List Notice × Except BindError Rule

def Blueprint.ofRule (rule : Rule) : Blueprint where
  unconfigured := fun _ => rule
  configure := fun _ params =>
    ([], if params.isEmpty then .ok rule else .error (.unknownParameters params.keys))

end BuildGate
