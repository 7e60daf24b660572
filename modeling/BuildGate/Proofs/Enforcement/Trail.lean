import BuildGate.Enforcement.Execute
import BuildGate.Proofs.Cache.Recorded

namespace BuildGate

def Rule.steady (verdict : Verdict) (cacheId : Option String) : Rule :=
  (Rule.plain fun _ => .silent verdict).withCacheId cacheId

def Host.bare : Host := ⟨⟨"/", fun _ => none⟩, ∅⟩

def Outcome.ofVerdict : Verdict → Outcome
  | .passed => .passed
  | .violation message => .failed message
  | .fatal message => .fatallyErrored message

/-- A rule in its place: the cache that it finds, what it is told, and what it does. -/
structure Visit where
  index : Nat
  descriptor : Descriptor
  before : Cache
  answer : Lookup
  step : Step

namespace RuleResult

def endsPass (options : Options) (r : RuleResult) : Bool :=
  match r.outcome with
  | .fatallyErrored _ => true
  | .failed _ => r.level == .error && options.failBuild && options.failFast
  | .passed | .skippedCached => false

def breach? (r : RuleResult) : Option String :=
  match r.level, r.outcome with
  | .error, .failed message =>
    some ("Rule " ++ toString r.index ++ ": " ++ r.implementation ++ " failed with message:\n" ++ message)
  | _, _ => none

def failure (before : List RuleResult) (r : RuleResult) : Failure :=
  match r.outcome with
  | .fatallyErrored message => .fatal r.index r.implementation message ⟨false, before ++ [r]⟩
  | .failed message => .violation (failureText r.index r.implementation message)
  | .passed | .skippedCached => .noRules

end RuleResult

/-- What is said of a violation besides the verdict. -/
def Descriptor.remarks (d : Descriptor) (options : Options) (index : Nat) : Outcome → List Notice
  | .failed message =>
    match d.level, options.failBuild, options.failFast with
    | .warn, _, _ =>
      [.warned ("Rule " ++ toString index ++ ": " ++ d.implementation ++ " warned with message:\n" ++ message)]
    | .error, false, _ =>
      [.tolerated ("Rule " ++ toString index ++ ": " ++ d.implementation ++ " failed with message:\n" ++ message)]
    | .error, true, false => [.deferred index d.name]
    | .error, true, true => []
  | .passed | .fatallyErrored _ | .skippedCached => []

namespace Visit

def result (v : Visit) : RuleResult :=
  ⟨v.index, v.descriptor.name, v.descriptor.implementation, v.descriptor.level, v.step.outcome⟩

def notices (options : Options) (v : Visit) : List Notice :=
  v.step.notices ++ v.descriptor.remarks options v.index v.step.outcome

end Visit

namespace Descriptor

def visit (d : Descriptor) (options : Options) (ctx : Context) (index : Nat) (cache : Cache) : Visit :=
  ⟨index, d, cache, (d.lookup options cache).2.1, d.step options ctx index cache⟩

theorem step_outcome (d : Descriptor) (options : Options) (ctx : Context) (index : Nat) (cache : Cache) :
    (d.step options ctx index cache).outcome =
      if (d.lookup options cache).2.1 = .hit then .skippedCached else .ofVerdict (d.rule.run ctx).verdict := by
  unfold step
  obtain ⟨notices, answer, after⟩ := d.lookup options cache
  by_cases hit : answer = .hit
  · simp only [hit, ↓reduceIte]
  · simp only [hit, ↓reduceIte]
    cases (d.rule.run ctx).verdict <;> rfl

def account (d : Descriptor) (ctx : Context) (index : Nat) : Outcome → List Notice
  | .skippedCached => [.alreadyRan index d.name d.implementation]
  | .passed => .executing index d.name d.subject :: (d.rule.run ctx).notices ++ [.passed index d.name]
  | .failed _ => .executing index d.name d.subject :: (d.rule.run ctx).notices
  | .fatallyErrored _ => .executing index d.name d.subject :: (d.rule.run ctx).notices ++ [.brokeOff index d.name]

structure Asks (d : Descriptor) (options : Options) (id : String) : Prop where
  heeded : options.ignoreCache = false
  named : d.rule.cacheId = some id
  takesPart : d.rule.isCacheable = true

/-- A rule is skipped where the cache has its check on record and the rule believes the earlier run, and
    executed once in any other case. -/
inductive Stepped (d : Descriptor) (options : Options) (ctx : Context) (index : Nat) (cache : Cache) :
    Lookup → Step → Prop
  | reused {id : String} (asks : d.Asks options id) (known : cache.contains d.implementation id = true)
      (accepts : d.rule.accepts ⟨d.implementation, id⟩ = true) :
      Stepped d options ctx index cache .hit
        ⟨.reused d.implementation id :: d.account ctx index .skippedCached, cache, .skippedCached⟩
  | apart (alone : ∀ id, ¬ d.Asks options id) :
      Stepped d options ctx index cache .uncached
        ⟨d.account ctx index (.ofVerdict (d.rule.run ctx).verdict), cache, .ofVerdict (d.rule.run ctx).verdict⟩
  | doubted {id : String} (asks : d.Asks options id) (known : cache.contains d.implementation id = true)
      (rejects : d.rule.accepts ⟨d.implementation, id⟩ = false) :
      Stepped d options ctx index cache .uncached
        ⟨.rejected d.implementation id :: d.account ctx index (.ofVerdict (d.rule.run ctx).verdict), cache,
          .ofVerdict (d.rule.run ctx).verdict⟩
  | kept {id : String} (asks : d.Asks options id) (unknown : cache.contains d.implementation id = false)
      (passes : (d.rule.run ctx).verdict = .passed) :
      Stepped d options ctx index cache (.reserved id)
        ⟨.reserved d.implementation id :: d.account ctx index .passed,
          cache.record d.implementation id unknown, .passed⟩
  | givenBack {id : String} (asks : d.Asks options id) (unknown : cache.contains d.implementation id = false)
      (fails : (d.rule.run ctx).verdict ≠ .passed) :
      Stepped d options ctx index cache (.reserved id)
        ⟨.reserved d.implementation id :: d.account ctx index (.ofVerdict (d.rule.run ctx).verdict), cache,
          .ofVerdict (d.rule.run ctx).verdict⟩

theorem step_cache (d : Descriptor) (options : Options) (ctx : Context) (index : Nat) (cache : Cache) :
    (d.step options ctx index cache).cache =
      if (d.lookup options cache).2.1 = .hit ∨ (d.rule.run ctx).verdict = .passed then
        (d.lookup options cache).2.2
      else d.giveBack (d.lookup options cache).2.1 (d.lookup options cache).2.2 := by
  unfold step
  obtain ⟨notices, answer, after⟩ := d.lookup options cache
  by_cases hit : answer = .hit
  · simp only [hit, ↓reduceIte, true_or]
  · simp only [hit, ↓reduceIte, false_or]
    cases verdict : (d.rule.run ctx).verdict <;> simp

theorem step_runs (d : Descriptor) {options : Options} (ctx : Context) (index : Nat) {cache after : Cache}
    {asked : List Notice} {answer : Lookup} (told : d.lookup options cache = (asked, answer, after))
    (runs : answer ≠ .hit) :
    d.step options ctx index cache =
      ⟨asked ++ d.account ctx index (.ofVerdict (d.rule.run ctx).verdict),
        if (d.rule.run ctx).verdict = .passed then after else d.giveBack answer after,
        .ofVerdict (d.rule.run ctx).verdict⟩ := by
  simp only [step, told, runs, ↓reduceIte]
  cases (d.rule.run ctx).verdict <;> simp [account, Outcome.ofVerdict]

theorem stepped (d : Descriptor) (options : Options) (ctx : Context) (index : Nat) (cache : Cache) :
    d.Stepped options ctx index cache (d.visit options ctx index cache).answer
      (d.visit options ctx index cache).step := by
  simp only [visit]
  by_cases ignores : options.ignoreCache = true
  · have told : d.lookup options cache = ([], .uncached, cache) := by simp [lookup, ignores]
    have alone : ∀ id, ¬ d.Asks options id := fun id asks => by simp [asks.heeded] at ignores
    simpa [d.step_runs ctx index told, told, giveBack] using Stepped.apart alone
  · have heeded : options.ignoreCache = false := by simpa using ignores
    have told : d.lookup options cache = cache.lookup d.implementation d.rule := by simp [lookup, heeded]
    have answered := cache.lookup_answered d.implementation d.rule
    rw [← told] at answered
    generalize asked : d.lookup options cache = reply at answered
    cases answered with
    | apart out =>
      have alone : ∀ id, ¬ d.Asks options id := fun id asks => by simp [asks.named, asks.takesPart] at out
      simpa [d.step_runs ctx index asked, giveBack] using Stepped.apart alone
    | accepted named takesPart known accepts =>
      simpa [step, asked, account] using Stepped.reused ⟨heeded, named, takesPart⟩ known accepts
    | rejected named takesPart known rejects =>
      simpa [d.step_runs ctx index asked, giveBack] using
        Stepped.doubted ⟨heeded, named, takesPart⟩ known rejects
    | fresh named takesPart unknown =>
      by_cases passes : (d.rule.run ctx).verdict = .passed
      · simpa [d.step_runs ctx index asked, passes, Outcome.ofVerdict] using
          Stepped.kept ⟨heeded, named, takesPart⟩ unknown passes
      · simpa [d.step_runs ctx index asked, passes, giveBack, Cache.release_record] using
          Stepped.givenBack ⟨heeded, named, takesPart⟩ unknown passes

end Descriptor

namespace Enforcer

/-- The rules from a position on, as far as no policy comes between. -/
def trail (options : Options) (ctx : Context) (index : Nat) (cache : Cache) : List Descriptor → List Visit
  | [] => []
  | d :: rest =>
    let v := d.visit options ctx index cache
    v :: trail options ctx (index + 1) v.step.cache rest

def reached (options : Options) : List Visit → List Visit
  | [] => []
  | v :: rest => if v.result.endsPass options then [v] else v :: reached options rest

def deferred (options : Options) (results : List RuleResult) : List String :=
  if options.failBuild then results.filterMap RuleResult.breach? else []

def cacheAfter (cache : Cache) (visits : List Visit) : Cache := visits.foldl (fun _ v => v.step.cache) cache

theorem deferred_append (options : Options) (left right : List RuleResult) :
    deferred options (left ++ right) = deferred options left ++ deferred options right := by
  unfold deferred
  split
  · exact List.filterMap_append
  · rfl

theorem walk_cons (options : Options) (ctx : Context) (index : Nat) (cache : Cache)
    (results : List RuleResult) (failures : List String) (d : Descriptor) (rest : List Descriptor)
    (v : Visit) (visited : v = d.visit options ctx index cache) :
    walk options ctx index cache results failures (d :: rest) =
      if v.result.endsPass options then
        ⟨v.notices options, v.step.cache, .error (v.result.failure results)⟩
      else
        (walk options ctx (index + 1) v.step.cache (results ++ [v.result])
          (failures ++ deferred options [v.result]) rest).after (v.notices options) := by
  subst visited
  suffices each : ∀ outcome, (d.step options ctx index cache).outcome = outcome → _ from each _ rfl
  intro outcome is
  cases outcome with
  | passed | skippedCached =>
    simp [walk, Descriptor.visit, Visit.result, Visit.notices, Descriptor.remarks, is, RuleResult.endsPass,
      Descriptor.result, deferred, RuleResult.breach?]
  | fatallyErrored message =>
    simp [walk, Descriptor.visit, Visit.result, Visit.notices, Descriptor.remarks, RuleResult.failure, is,
      RuleResult.endsPass, Descriptor.result]
  | failed message =>
    cases level : d.level <;> cases failBuild : options.failBuild <;> cases failFast : options.failFast <;>
      simp [walk, Descriptor.visit, Visit.result, Visit.notices, Descriptor.remarks, RuleResult.failure, is,
        RuleResult.endsPass, Descriptor.result, deferred, List.filterMap_cons, RuleResult.breach?,
        Options.ruling, failureText, warningText, level, failBuild, failFast]

theorem walk_cache (options : Options) (ctx : Context) (index : Nat) (cache : Cache)
    (results : List RuleResult) (failures : List String) (descriptors : List Descriptor) :
    (walk options ctx index cache results failures descriptors).cache =
      cacheAfter cache (reached options (trail options ctx index cache descriptors)) := by
  induction descriptors generalizing index cache results failures with
  | nil => rfl
  | cons d rest ih =>
    rw [walk_cons _ _ _ _ _ _ _ _ _ rfl, trail, reached]
    split
    · rfl
    · exact ih _ _ _ _

theorem walk_notices (options : Options) (ctx : Context) (index : Nat) (cache : Cache)
    (results : List RuleResult) (failures : List String) (descriptors : List Descriptor) :
    (walk options ctx index cache results failures descriptors).notices =
      (reached options (trail options ctx index cache descriptors)).flatMap (Visit.notices options) := by
  induction descriptors generalizing index cache results failures with
  | nil => rfl
  | cons d rest ih =>
    rw [walk_cons _ _ _ _ _ _ _ _ _ rfl, trail, reached]
    split
    · simp
    · rw [List.flatMap_cons, ← ih]
      rfl

end Enforcer

end BuildGate
