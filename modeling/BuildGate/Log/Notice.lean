import BuildGate.Log.Level
import BuildGate.Severity

namespace BuildGate

inductive Notice where
  | discovered (rules : Nat)
  | resolvedByName (rule : String)
  | resolvedByType (rule implementation : String)
  | bound (rule : String) (parameters : Nat)
  | leftOut (rule : String)
  | reserved (implementation cacheId : String)
  | reused (implementation cacheId : String)
  | rejected (implementation cacheId : String)
  | enforcementSkipped
  | noRules
  | alreadyRan (index : Nat) (rule implementation : String)
  | executing (index : Nat) (rule subject : String)
  | passed (index : Nat) (rule : String)
  | brokeOff (index : Nat) (rule : String)
  | deferred (index : Nat) (rule : String)
  | warned (text : String)
  | tolerated (text : String)
  | ruleSaid (level : Log.Level) (rule message : String)
  | loggingReady (level : Log.Level)
  | settingsLoaded (path : String)
  | settingsMissing (path : String)
  | starting (modules : Nat) (parallel : Bool)
  | finished
  deriving DecidableEq, Repr

namespace Log

structure Record where
  level : Level
  origin : String
  message : String
  fields : List (String × String)
  unlisted : List String

def ruleOrigin : String := "enforcer::rule"

end Log

namespace Notice

open Log in
def record : Notice → Record
  | discovered rules =>
    ⟨.debug, "enforcer_core::registry", "Discovered registered rules", [("rules", toString rules)], []⟩
  | resolvedByName rule =>
    ⟨.trace, "enforcer_core::registry", "Resolved rule from component catalog", [("rule", rule)], []⟩
  | resolvedByType rule implementation =>
    ⟨.trace, "enforcer_core::registry", "Resolved rule from type catalog",
      [("implementation", implementation), ("rule", rule)], []⟩
  | bound rule parameters =>
    ⟨.trace, "enforcer_core::binder", "Bound rule parameters",
      [("parameters", toString parameters), ("rule", rule)], []⟩
  | leftOut rule =>
    ⟨.info, "enforcer_core::enforcer", "Skipping rule on request", [("rule", rule)], []⟩
  | reserved implementation cacheId =>
    ⟨.trace, "enforcer_core::cache", "Cache miss, rule id reserved",
      [("cache_id", cacheId), ("implementation", implementation)], []⟩
  | reused implementation cacheId =>
    ⟨.debug, "enforcer_core::cache", "Cache hit",
      [("cache_id", cacheId), ("implementation", implementation)], []⟩
  | rejected implementation cacheId =>
    ⟨.debug, "enforcer_core::cache", "Cached result rejected by rule",
      [("cache_id", cacheId), ("implementation", implementation)], []⟩
  | enforcementSkipped => ⟨.info, "enforcer_core::enforcer", "Skipping Rule Enforcement.", [], []⟩
  | noRules => ⟨.warn, "enforcer_core::enforcer", "No rules are configured.", [], []⟩
  | alreadyRan index rule implementation =>
    ⟨.info, "enforcer_core::enforcer",
      "Skipping rule " ++ toString index ++ ": " ++ implementation
        ++ ", the same rule already ran in this session",
      [("index", toString index), ("rule", rule)], []⟩
  | executing index rule subject =>
    ⟨.debug, "enforcer_core::enforcer", "Executing rule: " ++ subject,
      [("index", toString index), ("rule", rule)], []⟩
  | passed index rule =>
    ⟨.debug, "enforcer_core::enforcer", "Rule passed", [("index", toString index), ("rule", rule)],
      ["duration_ms"]⟩
  | brokeOff index rule =>
    ⟨.error, "enforcer_core::enforcer", "Rule failed with a fatal error",
      [("index", toString index), ("rule", rule)], []⟩
  | deferred index rule =>
    ⟨.debug, "enforcer_core::enforcer", "Failure deferred to aggregate report",
      [("index", toString index), ("rule", rule)], []⟩
  | warned text => ⟨.warn, "enforcer_core::enforcer", text, [], []⟩
  | tolerated text => ⟨.error, "enforcer_core::enforcer", text, [], []⟩
  | ruleSaid level rule message => ⟨level, ruleOrigin, message, [("rule", rule)], []⟩
  | loggingReady level =>
    ⟨.info, "enforcer_core::logging", "Logging initialized with level: " ++ level.name, [], []⟩
  | settingsLoaded path =>
    ⟨.info, "enforcer_core::logging", "Configuration loaded from " ++ path, [], []⟩
  | settingsMissing path =>
    ⟨.warn, "enforcer_core::logging", "Configuration file not found: " ++ path, [], []⟩
  | starting modules parallel =>
    ⟨.debug, "enforcer::cli", "Starting enforcement",
      [("modules", toString modules), ("parallel", toString parallel)], []⟩
  | finished => ⟨.info, "enforcer::cli", "Rule enforcement finished", [], []⟩

end Notice

structure RuleLog where
  rule : String
  level : Severity
  deriving DecidableEq, Repr

namespace RuleLog

def debug (log : RuleLog) (message : String) : Notice := .ruleSaid .debug log.rule message

def warn (log : RuleLog) (message : String) : Notice := .ruleSaid .warn log.rule message

def error (log : RuleLog) (message : String) : Notice := .ruleSaid .error log.rule message

def atLevel (log : RuleLog) (message : String) : Notice :=
  match log.level with
  | .warn => log.warn message
  | .error => log.error message

end RuleLog

end BuildGate
