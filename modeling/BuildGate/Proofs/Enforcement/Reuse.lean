import BuildGate.Proofs.Enforcement.Session

namespace BuildGate

def Outcome.rerun : Outcome → Outcome
  | .skippedCached => .passed
  | outcome => outcome

def RuleResult.rerun (r : RuleResult) : RuleResult := { r with outcome := r.outcome.rerun }

def Report.rerun (report : Report) : Report := { report with results := report.results.map RuleResult.rerun }

def Failure.rerun : Failure → Failure
  | .fatal index implementation message report => .fatal index implementation message report.rerun
  | failure => failure

def rerunEnd : Except Failure Report → Except Failure Report
  | .ok report => .ok report.rerun
  | .error failure => .error failure.rerun

def Options.ignoring (options : Options) : Options := { options with ignoreCache := true }

namespace RuleResult

@[simp] theorem endsPass_rerun (options : Options) (r : RuleResult) :
    r.rerun.endsPass options = r.endsPass options := by
  obtain ⟨index, name, implementation, level, outcome⟩ := r
  cases outcome <;> rfl

@[simp] theorem breach?_rerun (r : RuleResult) : r.rerun.breach? = r.breach? := by
  obtain ⟨index, name, implementation, level, outcome⟩ := r
  cases outcome <;> cases level <;> rfl

theorem rerun_fatal {r : RuleResult} {message : String} (broken : r.outcome = .fatallyErrored message) :
    r.rerun.outcome = .fatallyErrored message := by
  simp only [rerun, broken, Outcome.rerun]

theorem breaches_rerun (results : List RuleResult) :
    (results.map rerun).filterMap breach? = results.filterMap breach? := by
  rw [List.filterMap_map]
  congr 1
  funext r
  exact breach?_rerun r

end RuleResult

theorem Adjudicated.rerun {options : Options} {results reached : List RuleResult}
    {outcome : Except Failure Report} (judged : Adjudicated options results reached outcome) :
    Adjudicated options.ignoring (results.map RuleResult.rerun) (reached.map RuleResult.rerun)
      (rerunEnd outcome) := by
  have quiet : ∀ results : List RuleResult, (∀ r ∈ results, r.endsPass options = false) →
      ∀ r ∈ results.map RuleResult.rerun, r.endsPass options.ignoring = false := by
    intro results calm r member
    obtain ⟨original, listed, rfl⟩ := List.mem_map.1 member
    exact (original.endsPass_rerun options).trans (calm original listed)
  cases judged with
  | @fatal before after r message calm broken =>
    simp only [List.map_append, List.map_cons, List.map_nil, rerunEnd, Failure.rerun, Report.rerun]
    exact .fatal (quiet before calm) (RuleResult.rerun_fatal broken)
  | @failFast before after r text calm breaks fast breach =>
    simp only [List.map_append, List.map_cons, List.map_nil, rerunEnd, Failure.rerun]
    exact .failFast (quiet before calm) breaks fast ((RuleResult.breach?_rerun r).trans breach)
  | aggregate calm breaks violated =>
    simp only [rerunEnd, Failure.rerun]
    rw [← RuleResult.breaches_rerun]
    rw [← RuleResult.breaches_rerun] at violated
    exact .aggregate (quiet results calm) breaks violated
  | success calm tolerated =>
    exact .success (quiet results calm) fun breaks => by
      rw [RuleResult.breaches_rerun]
      exact tolerated breaks

/-- The rules of a family, each with the surroundings in which it is to run, pass alike wherever they
    share an implementation and a cache id. -/
def PassAlike (checks : Context → Descriptor → Prop) : Prop :=
  ∀ {ctx ctx' : Context} {d d' : Descriptor} {id : String}, checks ctx d → checks ctx' d' →
    d.implementation = d'.implementation → d.rule.cacheId = some id → d'.rule.cacheId = some id →
    (d.rule.run ctx).verdict = .passed → (d'.rule.run ctx').verdict = .passed

structure Cache.Trusted (checks : Context → Descriptor → Prop) (cache : Cache) : Prop where
  passes : ∀ {ctx : Context} {d : Descriptor} {id : String}, checks ctx d → d.rule.cacheId = some id →
    cache.contains d.implementation id = true → (d.rule.run ctx).verdict = .passed

theorem Cache.Trusted.empty (checks : Context → Descriptor → Prop) : Cache.empty.Trusted checks :=
  ⟨fun _ _ known => by simp [Cache.contains] at known⟩

theorem Cache.Trusted.visit {checks : Context → Descriptor → Prop} (alike : PassAlike checks) {cache : Cache}
    (trusted : cache.Trusted checks) (options : Options) {ctx : Context} (index : Nat) {d : Descriptor}
    (listed : checks ctx d) :
    (d.visit options ctx index cache).step.cache.Trusted checks ∧
      (d.visit options ctx index cache).result.rerun =
        d.result index (.ofVerdict (d.rule.run ctx).verdict) := by
  have stepped := d.stepped options ctx index cache
  have shape : (d.visit options ctx index cache).result.rerun =
      d.result index (d.visit options ctx index cache).step.outcome.rerun := rfl
  rw [shape]
  generalize (d.visit options ctx index cache).answer = answer at stepped
  generalize (d.visit options ctx index cache).step = step at stepped
  have settled : (Outcome.ofVerdict (d.rule.run ctx).verdict).rerun = .ofVerdict (d.rule.run ctx).verdict := by
    cases (d.rule.run ctx).verdict <;> rfl
  cases stepped with
  | reused asks known accepts =>
    have passed := trusted.passes listed asks.named known
    exact ⟨trusted, by rw [passed]; rfl⟩
  | apart | doubted | givenBack => exact ⟨trusted, by rw [settled]⟩
  | kept asks unknown passes =>
    refine ⟨⟨?_⟩, by rw [passes]; rfl⟩
    intro ctx' d' id' listed' named' known
    rcases (cache.contains_record unknown _ _).1 known with ⟨implementation, rfl⟩ | known
    · exact alike listed listed' implementation.symm asks.named named' passes
    · exact trusted.passes listed' named' known

namespace Enforcer

theorem trail_ignoring (options : Options) (ctx : Context) (index : Nat) (cache : Cache)
    (descriptors : List Descriptor) :
    (trail options.ignoring ctx index cache descriptors).map Visit.result =
      (descriptors.zipIdx index).map fun entry =>
        entry.1.result entry.2 (.ofVerdict (entry.1.rule.run ctx).verdict) := by
  induction descriptors generalizing index cache with
  | nil => rfl
  | cons d rest ih =>
    rw [trail, List.map_cons, ih, List.zipIdx_cons, List.map_cons]
    congr 1
    simp [Visit.result, Descriptor.result, Descriptor.visit, Descriptor.step_outcome, Descriptor.lookup,
      Options.ignoring]

theorem trail_rerun {checks : Context → Descriptor → Prop} (alike : PassAlike checks) (options : Options)
    {ctx : Context} (descriptors : List Descriptor) (listed : ∀ d ∈ descriptors, checks ctx d) (index : Nat)
    {cache : Cache} (trusted : cache.Trusted checks) :
    ((trail options ctx index cache descriptors).map Visit.result).map RuleResult.rerun =
      (descriptors.zipIdx index).map fun entry =>
        entry.1.result entry.2 (.ofVerdict (entry.1.rule.run ctx).verdict) := by
  induction descriptors generalizing index cache with
  | nil => rfl
  | cons d rest ih =>
    obtain ⟨next, same⟩ := trusted.visit alike options index (listed d List.mem_cons_self)
    have later := ih (fun e member => listed e (List.mem_cons_of_mem d member)) (index + 1) next
    rw [trail, List.map_cons, List.map_cons, later, same]
    rfl

theorem walk_trusted {checks : Context → Descriptor → Prop} (alike : PassAlike checks) (options : Options)
    {ctx : Context} (descriptors : List Descriptor) (listed : ∀ d ∈ descriptors, checks ctx d) (index : Nat)
    {cache : Cache} (trusted : cache.Trusted checks) :
    (cacheAfter cache (reached options (trail options ctx index cache descriptors))).Trusted checks := by
  induction descriptors generalizing index cache with
  | nil => exact trusted
  | cons d rest ih =>
    obtain ⟨next, -⟩ := trusted.visit alike options index (listed d List.mem_cons_self)
    have later := ih (fun e member => listed e (List.mem_cons_of_mem d member)) (index + 1) next
    rw [trail, reached]
    split
    · exact next
    · exact later

theorem execute_rerun {checks : Context → Descriptor → Prop} (alike : PassAlike checks) (options : Options)
    {ctx : Context} {descriptors : List Descriptor} (listed : ∀ d ∈ descriptors, checks ctx d)
    {cache : Cache} (trusted : cache.Trusted checks) :
    rerunEnd (execute options ctx cache descriptors).outcome =
      (execute options.ignoring ctx cache descriptors).outcome := by
  by_cases inactive : options.skip = true
  · simp [execute, Options.ignoring, inactive, rerunEnd, Report.rerun, Report.ofSkipped]
  · have active : options.skip = false := by simpa using inactive
    by_cases none : descriptors = []
    · cases failIfNoRules : options.failIfNoRules <;>
        simp [execute, Options.ignoring, active, none, failIfNoRules, rerunEnd, Report.rerun, Report.empty,
          Failure.rerun]
    · have activeIgnoring : options.ignoring.skip = false := active
      have same := (execute_judged options ctx cache active none).rerun
      have uncached := execute_judged options.ignoring ctx cache activeIgnoring none
      rw [trail_rerun alike options descriptors listed 0 trusted] at same
      rw [trail_ignoring] at uncached
      exact (Prod.mk.inj (same.eq_judgement.symm.trans uncached.eq_judgement)).2

end Enforcer

namespace Session

def Checks (events : List SessionEvent) (ctx : Context) (d : Descriptor) : Prop :=
  ∃ options descriptors, SessionEvent.pass options ctx descriptors ∈ events ∧ d ∈ descriptors

theorem advance_trusted {checks : Context → Descriptor → Prop} (alike : PassAlike checks) {s : Session}
    (trusted : s.cache.Trusted checks) (event : SessionEvent)
    (listed : ∀ ctx d, Checks [event] ctx d → checks ctx d) : (s.advance event).cache.Trusted checks := by
  cases event with
  | clear => exact .empty checks
  | pass options ctx descriptors =>
    simp only [advance, Enforcer.execute_cache, Enforcer.visits]
    split
    · exact trusted
    · exact Enforcer.walk_trusted alike options descriptors
        (fun d member => listed ctx d ⟨options, descriptors, List.mem_singleton_self _, member⟩) 0 trusted

theorem run_trusted {checks : Context → Descriptor → Prop} (alike : PassAlike checks)
    (events : List SessionEvent) (listed : ∀ ctx d, Checks events ctx d → checks ctx d) {s : Session}
    (trusted : s.cache.Trusted checks) : (events.foldl advance s).cache.Trusted checks := by
  induction events generalizing s with
  | nil => exact trusted
  | cons event rest ih =>
    refine ih ?_ (advance_trusted alike trusted event ?_)
    · rintro ctx d ⟨options, descriptors, member, named⟩
      exact listed ctx d ⟨options, descriptors, List.mem_cons_of_mem _ member, named⟩
    · rintro ctx d ⟨options, descriptors, member, named⟩
      exact listed ctx d ⟨options, descriptors, List.mem_singleton.1 member ▸ List.mem_cons_self, named⟩

/-- Every pass of a session ends as it does with the cache ignored, skipped rules taken for passed ones. -/
theorem outcome_without_cache {events : List SessionEvent} (alike : PassAlike (Checks events))
    {earlier later : List SessionEvent} {options : Options} {ctx : Context} {descriptors : List Descriptor}
    (split : events = earlier ++ .pass options ctx descriptors :: later) :
    rerunEnd (Enforcer.execute options ctx (after earlier).cache descriptors).outcome =
      (Enforcer.execute options.ignoring ctx (after earlier).cache descriptors).outcome := by
  subst split
  refine Enforcer.execute_rerun alike options (fun d member => ?_) (run_trusted alike earlier ?_ (.empty _))
  · exact ⟨options, descriptors, by simp, member⟩
  · rintro ctx' d ⟨options', descriptors', member, named⟩
    exact ⟨options', descriptors', List.mem_append_left _ member, named⟩

theorem outcome_without_cache_fatal :
    let ctx := Context.new Host.bare Context.defaultBase
    let first : List Descriptor := [⟨"first", "tests::Rule", .steady .passed (some "x"), .error⟩]
    let second : List Descriptor := [⟨"again", "tests::Rule", .steady .passed (some "x"), .error⟩,
      ⟨"broken", "tests::Rule", .steady (.fatal "boom") (some "y"), .warn⟩]
    let events : List SessionEvent := [.pass .default ctx first, .pass .default ctx second]
    PassAlike (Checks events) ∧
      events = [.pass .default ctx first] ++ .pass .default ctx second :: [] ∧
      rerunEnd (Enforcer.execute .default ctx (after [.pass .default ctx first]).cache second).outcome =
        .error (.fatal 1 "tests::Rule" "boom" ⟨false,
          [⟨0, "again", "tests::Rule", .error, .passed⟩,
            ⟨1, "broken", "tests::Rule", .warn, .fatallyErrored "boom"⟩]⟩) := by
  intro ctx first second events
  have shape : ∀ ctx d, Checks events ctx d →
      d.rule = .steady .passed (some "x") ∨ d.rule = .steady (.fatal "boom") (some "y") := by
    rintro ctx d ⟨_, _, listed, member⟩
    simp only [events, List.mem_cons, SessionEvent.pass.injEq, List.not_mem_nil, or_false] at listed
    rcases listed with ⟨-, -, rfl⟩ | ⟨-, -, rfl⟩
    · rw [List.mem_singleton.1 member]
      exact .inl rfl
    · rcases List.mem_cons.1 member with rfl | member
      · exact .inl rfl
      · rw [List.mem_singleton.1 member]
        exact .inr rfl
  have alike : PassAlike (Checks events) := by
    rintro ctx ctx' d d' id listed listed' - named named' passes
    rcases shape ctx d listed with rule | rule <;> rw [rule] at named passes
    · rcases shape ctx' d' listed' with rule' | rule' <;> rw [rule'] at named' ⊢
      · rfl
      · exact absurd (named.trans named'.symm) (by decide)
    · cases passes
  have split : events = [.pass .default ctx first] ++ .pass .default ctx second :: [] := rfl
  refine ⟨alike, split, ?_⟩
  rw [outcome_without_cache alike split]
  decide

end Session

end BuildGate
