import BuildGate.Cache
import BuildGate.Enforcement.Prepare

namespace BuildGate

structure Step where
  notices : List Notice
  cache : Cache
  outcome : Outcome

structure Pass where
  notices : List Notice
  cache : Cache
  outcome : Except Failure Report

def Pass.after (notices : List Notice) (pass : Pass) : Pass :=
  { pass with notices := notices ++ pass.notices }

namespace Descriptor

def result (d : Descriptor) (index : Nat) (outcome : Outcome) : RuleResult :=
  ⟨index, d.name, d.implementation, d.level, outcome⟩

def subject (d : Descriptor) : String := d.rule.description.getD d.implementation

def lookup (d : Descriptor) (options : Options) (cache : Cache) : List Notice × Lookup × Cache :=
  if options.ignoreCache then ([], .uncached, cache) else cache.lookup d.implementation d.rule

def giveBack (d : Descriptor) (lookup : Lookup) (cache : Cache) : Cache :=
  match lookup with
  | .reserved id => cache.release d.implementation id
  | .hit | .uncached => cache

def step (d : Descriptor) (options : Options) (ctx : Context) (index : Nat) (cache : Cache) : Step :=
  let (notices, lookup, cache) := d.lookup options cache
  if lookup = .hit then
    ⟨notices ++ [.alreadyRan index d.name d.implementation], cache, .skippedCached⟩
  else
    let execution := d.rule.run ctx
    let notices := notices ++ [.executing index d.name d.subject] ++ execution.notices
    match execution.verdict with
    | .passed => ⟨notices ++ [.passed index d.name], cache, .passed⟩
    | .violation message => ⟨notices, d.giveBack lookup cache, .failed message⟩
    | .fatal message =>
      ⟨notices ++ [.brokeOff index d.name], d.giveBack lookup cache, .fatallyErrored message⟩

end Descriptor

inductive Ruling where
  | tolerate (notice : Notice)
  | defer (notice : Notice) (text : String)
  | stop (text : String)

/-- Violations of `warn` rules are warnings; those of `error` rules count if the build may fail. -/
def Options.ruling (options : Options) (d : Descriptor) (index : Nat) (message : String) : Ruling :=
  match d.level with
  | .warn => .tolerate (.warned (warningText index d.implementation message))
  | .error =>
    let text := failureText index d.implementation message
    if !options.failBuild then .tolerate (.tolerated text)
    else if options.failFast then .stop text
    else .defer (.deferred index d.name) text

namespace Enforcer

def conclude (results : List RuleResult) : List String → Except Failure Report
  | [] => .ok ⟨false, results⟩
  | failures => .error (.aggregate failures)

/-- Runs rules from a position on, after the results and deferred failures of those before. -/
def walk (options : Options) (ctx : Context) (index : Nat) (cache : Cache)
    (results : List RuleResult) (failures : List String) : List Descriptor → Pass
  | [] => ⟨[], cache, conclude results failures⟩
  | d :: rest =>
    let step := d.step options ctx index cache
    let results := results ++ [d.result index step.outcome]
    match step.outcome with
    | .passed | .skippedCached =>
      (walk options ctx (index + 1) step.cache results failures rest).after step.notices
    | .fatallyErrored message =>
      ⟨step.notices, step.cache, .error (.fatal index d.implementation message ⟨false, results⟩)⟩
    | .failed message =>
      match options.ruling d index message with
      | .stop text => ⟨step.notices, step.cache, .error (.violation text)⟩
      | .tolerate notice =>
        (walk options ctx (index + 1) step.cache results failures rest).after
          (step.notices ++ [notice])
      | .defer notice text =>
        (walk options ctx (index + 1) step.cache results (failures ++ [text]) rest).after
          (step.notices ++ [notice])

def execute (options : Options) (ctx : Context) (cache : Cache) (descriptors : List Descriptor) :
    Pass :=
  if options.skip then ⟨[.enforcementSkipped], cache, .ok .ofSkipped⟩
  else if descriptors.isEmpty then
    if options.failIfNoRules then ⟨[], cache, .error .noRules⟩
    else ⟨[.noRules], cache, .ok .empty⟩
  else walk options ctx 0 cache [] [] descriptors

def run (enforcer : Enforcer) (ctx : Context) (cache : Cache) (declarations : List Declaration) :
    Pass :=
  if enforcer.options.skip then ⟨[.enforcementSkipped], cache, .ok .ofSkipped⟩
  else
    match enforcer.prepare declarations with
    | (notices, .error e) => ⟨notices, cache, .error e⟩
    | (notices, .ok descriptors) =>
      (execute enforcer.options ctx cache descriptors).after notices

end Enforcer

end BuildGate
