import BuildGate.Proofs.Parallel.Worker

namespace BuildGate

abbrev Check := String × String

/-- The rule takes part in caching by its id alone, and believes every earlier run. -/
structure Rule.LeavesHooks (rule : Rule) : Prop where
  takesPart : rule.isCacheable = rule.cacheId.isSome
  accepts : ∀ earlier, rule.accepts earlier = true

namespace Descriptor

def check? (d : Descriptor) : Option Check := d.rule.cacheId.map fun id => (d.implementation, id)

def breaks (d : Descriptor) (ctx : Context) : Bool :=
  match (d.rule.run ctx).verdict with
  | .passed => false
  | .violation _ => d.level == .error
  | .fatal _ => true

end Descriptor

namespace Cache

def knows (cache : Cache) (check : Check) : Bool := cache.contains check.1 check.2

theorem knows_empty (check : Check) : empty.knows check = false := rfl

theorem knows_record (cache : Cache) {check : Check} (unknown : cache.knows check = false) (other : Check) :
    (cache.record check.1 check.2 unknown).knows other = true ↔ other = check ∨ cache.knows other = true := by
  have recorded := cache.contains_record unknown other.1 other.2
  rwa [← Prod.ext_iff] at recorded

theorem knows_release (cache : Cache) (check other : Check) :
    (cache.release check.1 check.2).knows other = true ↔ other ≠ check ∧ cache.knows other = true := by
  unfold knows
  rw [contains_release, ne_eq, Prod.ext_iff]

inductive Told (cache : Cache) (d : Descriptor) : Lookup → Cache → Prop
  | apart (unnamed : d.check? = none) : Told cache d .uncached cache
  | known {check : Check} (named : d.check? = some check) (known : cache.knows check = true) :
      Told cache d .hit cache
  | fresh {check : Check} (named : d.check? = some check) (unknown : cache.knows check = false) :
      Told cache d (.reserved check.2) (cache.record check.1 check.2 unknown)

theorem told {options : Options} (asks : options.ignoreCache = false) {d : Descriptor}
    (hooks : d.rule.LeavesHooks) (cache : Cache) :
    Told cache d (d.lookup options cache).2.1 (d.lookup options cache).2.2 := by
  have answered := cache.lookup_answered d.implementation d.rule
  simp only [Descriptor.lookup, asks, Bool.false_eq_true, ↓reduceIte]
  generalize cache.lookup d.implementation d.rule = asked at answered
  cases answered with
  | apart out =>
    apply Told.apart
    rcases out with unnamed | barred
    · simp only [Descriptor.check?, unnamed, Option.map_none]
    · have unnamed : d.rule.cacheId = none := by
        rw [hooks.takesPart] at barred
        simpa using barred
      simp only [Descriptor.check?, unnamed, Option.map_none]
  | @accepted id named _ known _ =>
    have check : d.check? = some (d.implementation, id) := by rw [Descriptor.check?, named, Option.map_some]
    exact .known check known
  | rejected named takesPart known rejects =>
    rw [hooks.accepts] at rejects
    cases rejects
  | @fresh id named _ unknown =>
    have check : d.check? = some (d.implementation, id) := by rw [Descriptor.check?, named, Option.map_some]
    exact .fresh check unknown

theorem told_known {options : Options} (asks : options.ignoreCache = false) {d : Descriptor}
    (hooks : d.rule.LeavesHooks) {cache : Cache} {check : Check} (named : d.check? = some check)
    (known : cache.knows check = true) :
    (d.lookup options cache).2.1 = .hit ∧ (d.lookup options cache).2.2 = cache := by
  have told := told asks hooks cache
  generalize (d.lookup options cache).2.1 = answer at told
  generalize (d.lookup options cache).2.2 = after at told
  cases told with
  | known => exact ⟨rfl, rfl⟩
  | apart unnamed => cases named.symm.trans unnamed
  | fresh other unknown =>
    cases named.symm.trans other
    cases known.symm.trans unknown

end Cache

namespace Descriptor

theorem implementation_of_check {d : Descriptor} {check : Check} (named : d.check? = some check) :
    d.implementation = check.1 := by
  obtain ⟨id, -, rfl⟩ := Option.map_eq_some_iff.1 named
  rfl

theorem giveBack_reserved {d : Descriptor} {check : Check} (named : d.check? = some check) (cache : Cache) :
    d.giveBack (.reserved check.2) cache = cache.release check.1 check.2 := by
  rw [giveBack, implementation_of_check named]

theorem knows_giveBack {d : Descriptor} {answer : Lookup} {cache : Cache} {check : Check}
    (known : (d.giveBack answer cache).knows check = true) : cache.knows check = true := by
  cases answer with
  | hit | uncached => exact known
  | reserved id => exact ((cache.knows_release (d.implementation, id) check).1 known).2

end Descriptor

/-- The result fails a pass whose build may fail, at once or in the end. -/
def RuleResult.counts (r : RuleResult) : Bool :=
  match r.outcome with
  | .fatallyErrored _ => true
  | .failed _ => r.level == .error
  | .passed | .skippedCached => false

theorem Descriptor.counts_iff_breaks (d : Descriptor) (ctx : Context) (index : Nat) :
    (d.result index (.ofVerdict (d.rule.run ctx).verdict)).counts = d.breaks ctx := by
  unfold breaks
  cases (d.rule.run ctx).verdict <;> rfl

namespace Progress

theorem settle_calm {r : RuleResult} (calm : r.counts = false) (progress : Progress) (options : Options)
    (rest : List Descriptor) :
    progress.settle options r rest =
      .waiting ⟨progress.index + 1, progress.results ++ [r], progress.failures⟩ rest := by
  obtain ⟨index, name, implementation, level, outcome⟩ := r
  cases outcome with
  | fatallyErrored message => cases calm
  | passed | skippedCached =>
    simp [settle, RuleResult.endsPass, Enforcer.deferred, RuleResult.breach?]
  | failed message =>
    cases level with
    | error => cases calm
    | warn => simp [settle, RuleResult.endsPass, Enforcer.deferred, List.filterMap_cons, RuleResult.breach?]

end Progress

namespace Stage

def ahead : Stage → List Descriptor
  | .waiting _ rest | .running _ _ _ rest => rest
  | .ended _ => []

def Clean (ctx : Context) : Stage → Prop
  | .waiting progress _ => progress.failures = []
  | .running progress d _ _ => progress.failures = [] ∧ d.breaks ctx = false
  | .ended outcome => outcome.isOk = true

theorem clean_settle {options : Options} (failBuild : options.failBuild = true) {ctx : Context}
    {progress : Progress} {r : RuleResult} {rest : List Descriptor}
    (clean : (progress.settle options r rest).Clean ctx) : progress.failures = [] ∧ r.counts = false := by
  cases calm : r.counts with
  | false =>
    rw [Progress.settle_calm calm] at clean
    exact ⟨clean, rfl⟩
  | true =>
    obtain ⟨index, name, implementation, level, outcome⟩ := r
    cases outcome with
    | passed | skippedCached => cases calm
    | fatallyErrored message => cases clean
    | failed message =>
      cases level with
      | warn => cases calm
      | error =>
        cases failFast : options.failFast <;>
          simp [Progress.settle, RuleResult.endsPass, failBuild, failFast, Clean, Enforcer.deferred,
            RuleResult.breach?, Except.isOk, Except.toBool] at clean

inductive Moved (options : Options) (ctx : Context) (cache : Cache) : Stage → Stage → Cache → Prop
  | concludes {progress : Progress} :
      Moved options ctx cache (.waiting progress [])
        (.ended (Enforcer.conclude progress.results progress.failures)) cache
  | skips {progress : Progress} {d : Descriptor} {rest : List Descriptor} {check : Check}
      (named : d.check? = some check) (known : cache.knows check = true) :
      Moved options ctx cache (.waiting progress (d :: rest))
        (progress.settle options (d.result progress.index .skippedCached) rest) cache
  | goesAlone {progress : Progress} {d : Descriptor} {rest : List Descriptor} (unnamed : d.check? = none) :
      Moved options ctx cache (.waiting progress (d :: rest)) (.running progress d .uncached rest) cache
  | reserves {progress : Progress} {d : Descriptor} {rest : List Descriptor} {check : Check}
      (named : d.check? = some check) (unknown : cache.knows check = false) :
      Moved options ctx cache (.waiting progress (d :: rest)) (.running progress d (.reserved check.2) rest)
        (cache.record check.1 check.2 unknown)
  | finishes {progress : Progress} {d : Descriptor} {answer : Lookup} {rest : List Descriptor} :
      Moved options ctx cache (.running progress d answer rest)
        (progress.settle options (d.result progress.index (.ofVerdict (d.rule.run ctx).verdict)) rest)
        (if (d.rule.run ctx).verdict = .passed then cache else d.giveBack answer cache)
  | rests {outcome : Except Failure Report} :
      Moved options ctx cache (.ended outcome) (.ended outcome) cache

end Stage

theorem Worker.moved {options : Options} (asks : options.ignoreCache = false) (ctx : Context) (w : Worker)
    (cache : Cache) (hooks : ∀ d ∈ w.stage.ahead, d.rule.LeavesHooks) :
    w.stage.Moved options ctx cache (w.step options ctx cache).1.stage (w.step options ctx cache).2 := by
  obtain ⟨said, stage⟩ := w
  cases stage with
  | ended outcome => exact .rests
  | running progress d answer rest =>
    simp only [step, settle, Descriptor.finish_outcome, Descriptor.finish_cache]
    exact .finishes
  | waiting progress rest =>
    cases rest with
    | nil => exact .concludes
    | cons d rest =>
      have told := Cache.told asks (hooks d List.mem_cons_self) cache
      simp only [step]
      generalize d.lookup options cache = asked at told
      obtain ⟨notices, answer, after⟩ := asked
      cases told with
      | apart unnamed => exact .goesAlone unnamed
      | known named known => exact .skips named known
      | fresh named unknown => exact .reserves named unknown

namespace Stage

theorem Moved.clean {options : Options} (failBuild : options.failBuild = true) {ctx : Context}
    {cache left : Cache} {stage next : Stage} (moved : stage.Moved options ctx cache next left)
    (clean : next.Clean ctx) : stage.Clean ctx := by
  cases moved with
  | rests => exact clean
  | skips named known => exact (clean_settle failBuild clean).1
  | goesAlone unnamed => exact clean.1
  | reserves named unknown => exact clean.1
  | @finishes progress d answer rest =>
    obtain ⟨none, calm⟩ := clean_settle failBuild clean
    exact ⟨none, (d.counts_iff_breaks ctx progress.index).symm.trans calm⟩
  | @concludes progress =>
    cases failures : progress.failures with
    | nil => exact failures
    | cons text more =>
      simp only [failures, Enforcer.conclude] at clean
      cases clean

end Stage

end BuildGate
