import BuildGate.Proofs.Enforcement.Verdict

namespace BuildGate

def Lookup.isReserved : Lookup → Bool
  | .reserved _ => true
  | .hit | .uncached => false

def Visit.succeeded (v : Visit) : Bool := v.answer.isReserved && v.step.outcome == .passed

/-- The ids of the rules of an implementation that were given a reservation and passed. -/
def successes (implementation : String) (log : List Visit) : List String :=
  (log.filter fun v => v.succeeded && v.descriptor.implementation == implementation).filterMap
    (·.descriptor.rule.cacheId)

def Pass.results (pass : Pass) : List RuleResult :=
  match pass.outcome with
  | .ok report | .error (.fatal _ _ _ report) => report.results
  | .error _ => []

namespace Enforcer

def visits (options : Options) (ctx : Context) (cache : Cache) (descriptors : List Descriptor) : List Visit :=
  if options.skip then [] else reached options (trail options ctx 0 cache descriptors)

theorem execute_cache (options : Options) (ctx : Context) (cache : Cache) (descriptors : List Descriptor) :
    (execute options ctx cache descriptors).cache =
      cacheAfter cache (visits options ctx cache descriptors) := by
  by_cases inactive : options.skip = true
  · simp [execute, visits, inactive, cacheAfter]
  · have active : options.skip = false := by simpa using inactive
    by_cases none : descriptors = []
    · cases failIfNoRules : options.failIfNoRules <;>
        simp [execute, active, none, failIfNoRules, visits, trail, reached, cacheAfter]
    · rw [execute_eq_walk ctx cache active none, walk_cache]
      simp [visits, active]

theorem cacheAfter_ignoring {options : Options} (ignores : options.ignoreCache = true) (ctx : Context)
    (index : Nat) (cache : Cache) (descriptors : List Descriptor) :
    cacheAfter cache (reached options (trail options ctx index cache descriptors)) = cache := by
  induction descriptors generalizing index cache with
  | nil => rfl
  | cons d rest ih =>
    have kept : (d.visit options ctx index cache).step.cache = cache := by
      simp [Descriptor.visit, Descriptor.step_cache, Descriptor.lookup, ignores, Descriptor.giveBack]
    have later := ih (index + 1) (d.visit options ctx index cache).step.cache
    rw [trail, reached]
    split
    · exact kept
    · exact later.trans kept

theorem execute_results_mem {options : Options} {ctx : Context} {cache : Cache}
    {descriptors : List Descriptor} {r : RuleResult}
    (told : r ∈ (execute options ctx cache descriptors).results) :
    ∃ v ∈ visits options ctx cache descriptors, v.result = r := by
  by_cases inactive : options.skip = true
  · simp [execute, inactive, Pass.results, Report.ofSkipped] at told
  · have active : options.skip = false := by simpa using inactive
    by_cases none : descriptors = []
    · cases failIfNoRules : options.failIfNoRules <;>
        simp [execute, active, none, failIfNoRules, Pass.results, Report.empty] at told
    · have judged := execute_judged options ctx cache active none
      have walked : r ∈ (visits options ctx cache descriptors).map Visit.result := by
        simp only [visits, active, Bool.false_eq_true, ↓reduceIte]
        generalize execute options ctx cache descriptors = pass at told judged
        obtain ⟨notices, after, outcome⟩ := pass
        simp only at judged
        generalize (reached options (trail options ctx 0 cache descriptors)).map Visit.result = here at judged ⊢
        generalize (trail options ctx 0 cache descriptors).map Visit.result = all at judged
        cases judged with
        | fatal | success => exact told
        | failFast | aggregate => cases told
      exact List.mem_map.1 walked

end Enforcer

inductive SessionEvent where
  | pass (options : Options) (ctx : Context) (descriptors : List Descriptor)
  | clear

structure Session where
  cache : Cache
  log : List Visit

namespace Session

def start : Session := ⟨.empty, []⟩

def advance (s : Session) : SessionEvent → Session
  | .pass options ctx descriptors =>
    ⟨(Enforcer.execute options ctx s.cache descriptors).cache,
      s.log ++ Enforcer.visits options ctx s.cache descriptors⟩
  | .clear => start

def after (events : List SessionEvent) : Session := events.foldl advance start

/-- The check of a rule that is skipped passed before, on behalf of some other rule. -/
def Vouched (log : List Visit) (v : Visit) : Prop :=
  ∃ w ∈ log, w.succeeded = true ∧ w.descriptor.implementation = v.descriptor.implementation ∧
    ∃ id, w.descriptor.rule.cacheId = some id ∧ v.descriptor.rule.cacheId = some id

structure Faithful (s : Session) : Prop where
  recorded : ∀ implementation, s.cache.cacheIds implementation = successes implementation s.log
  inert : ∀ v ∈ s.log, v.succeeded = false → v.step.cache = v.before
  vouched : ∀ earlier v later, s.log = earlier ++ v :: later → v.step.outcome = .skippedCached →
    Vouched earlier v

theorem successes_append (implementation : String) (log more : List Visit) :
    successes implementation (log ++ more) = successes implementation log ++ successes implementation more := by
  simp only [successes, List.filter_append, List.filterMap_append]

theorem exists_success {implementation id : String} {log : List Visit}
    (member : id ∈ successes implementation log) :
    ∃ w ∈ log, w.succeeded = true ∧ w.descriptor.implementation = implementation ∧
      w.descriptor.rule.cacheId = some id := by
  obtain ⟨w, kept, named⟩ := List.mem_filterMap.1 member
  obtain ⟨logged, good⟩ := List.mem_filter.1 kept
  simp only [Bool.and_eq_true, beq_iff_eq] at good
  exact ⟨w, logged, good.1, good.2, named⟩

theorem start_faithful : start.Faithful where
  recorded _ := rfl
  inert v member := by cases member
  vouched earlier v later split := by cases earlier <;> cases split

theorem visit_effect {s : Session} (faithful : s.Faithful) (options : Options) (ctx : Context) (index : Nat)
    (d : Descriptor) :
    let v := d.visit options ctx index s.cache
    (∀ implementation, v.step.cache.cacheIds implementation = successes implementation (s.log ++ [v])) ∧
      (v.succeeded = false → v.step.cache = s.cache) ∧
      (v.step.outcome = .skippedCached → Vouched s.log v) := by
  intro v
  have same : v.descriptor = d := rfl
  have stepped := d.stepped options ctx index s.cache
  simp only [successes_append, ← faithful.recorded]
  simp only [successes, List.filter_cons, List.filter_nil, Visit.succeeded, Vouched, same]
  change d.Stepped options ctx index s.cache v.answer v.step at stepped
  generalize v.answer = answer at stepped
  generalize v.step = step at stepped
  cases stepped with
  | reused asks known accepts =>
    refine ⟨fun implementation => by simp [Lookup.isReserved], fun _ => rfl, fun _ => ?_⟩
    rw [Cache.contains_iff, faithful.recorded] at known
    obtain ⟨w, logged, succeeded, implementation, id⟩ := exists_success known
    exact ⟨w, logged, succeeded, implementation, _, id, asks.named⟩
  | apart | doubted =>
    refine ⟨fun implementation => by simp [Lookup.isReserved], fun _ => rfl, ?_⟩
    cases (d.rule.run ctx).verdict <;> simp [Outcome.ofVerdict]
  | kept asks unknown passes =>
    refine ⟨?_, by simp [Lookup.isReserved], by simp⟩
    intro implementation
    rw [Cache.cacheIds_record]
    by_cases here : implementation = d.implementation
    · simp [Lookup.isReserved, here, same, asks.named]
    · have apart : ¬ d.implementation = implementation := fun equal => here equal.symm
      simp [Lookup.isReserved, here, apart]
  | givenBack asks unknown fails =>
    have failed : Outcome.ofVerdict (d.rule.run ctx).verdict ≠ .passed := by
      cases verdict : (d.rule.run ctx).verdict <;> simp_all [Outcome.ofVerdict]
    refine ⟨?_, fun _ => rfl, ?_⟩
    · intro implementation
      simp [Lookup.isReserved, failed]
    · cases (d.rule.run ctx).verdict <;> simp [Outcome.ofVerdict]

theorem Faithful.visit {s : Session} (faithful : s.Faithful) (options : Options) (ctx : Context) (index : Nat)
    (d : Descriptor) :
    let v := d.visit options ctx index s.cache
    Faithful ⟨v.step.cache, s.log ++ [v]⟩ := by
  intro v
  obtain ⟨recorded, inert, vouched⟩ := visit_effect faithful options ctx index d
  refine ⟨recorded, ?_, ?_⟩
  · intro w member failed
    rcases List.mem_append.1 member with member | member
    · exact faithful.inert w member failed
    · rw [List.mem_singleton.1 member] at failed ⊢
      exact inert failed
  · intro earlier w later split skipped
    rcases List.eq_nil_or_concat later with none | ⟨more, last, some⟩
    · rw [none] at split
      obtain ⟨rfl, same⟩ := List.append_inj' split rfl
      obtain ⟨rfl⟩ := List.cons.inj same
      exact vouched skipped
    · rw [some, List.concat_eq_append, ← List.cons_append, ← List.append_assoc] at split
      obtain ⟨front, -⟩ := List.append_inj' split rfl
      exact faithful.vouched earlier w more front skipped

/-- The induction is on the rules; the log grows by those that the pass gets to. -/
theorem Faithful.walk (options : Options) (ctx : Context) (descriptors : List Descriptor) (index : Nat)
    {s : Session} (faithful : s.Faithful) :
    let walked := Enforcer.reached options (Enforcer.trail options ctx index s.cache descriptors)
    Faithful ⟨Enforcer.cacheAfter s.cache walked, s.log ++ walked⟩ := by
  induction descriptors generalizing index s with
  | nil => simpa [Enforcer.trail, Enforcer.reached, Enforcer.cacheAfter] using faithful
  | cons d rest ih =>
    have first := faithful.visit options ctx index d
    simp only [Enforcer.trail, Enforcer.reached]
    split
    · exact first
    · have later := ih (index + 1) first
      simp only [List.append_assoc, List.singleton_append] at later
      exact later

theorem Faithful.advance {s : Session} (faithful : s.Faithful) (event : SessionEvent) :
    (s.advance event).Faithful := by
  cases event with
  | clear => exact start_faithful
  | pass options ctx descriptors =>
    simp only [Session.advance, Enforcer.execute_cache, Enforcer.visits]
    split
    · simpa [Enforcer.cacheAfter] using faithful
    · exact faithful.walk options ctx descriptors 0

theorem Faithful.run {s : Session} (faithful : s.Faithful) (events : List SessionEvent) :
    (events.foldl Session.advance s).Faithful := by
  induction events generalizing s with
  | nil => exact faithful
  | cons event rest ih => exact ih (faithful.advance event)

theorem after_faithful (events : List SessionEvent) : (after events).Faithful := start_faithful.run events

/-- The recorded ids are those of the successes, in their order; a rule that was given no reservation or
    did not pass leaves the cache as it found it, and a rule is skipped on the strength of a success. -/
theorem records_successes (events : List SessionEvent) :
    let s := after events
    (∀ implementation, s.cache.cacheIds implementation = successes implementation s.log ∧
      (s.cache.cacheIds implementation).Nodup) ∧
      (∀ v ∈ s.log, v.answer.isReserved = false ∨ v.step.outcome ≠ .passed → v.step.cache = v.before) ∧
      ∀ options ctx descriptors,
        let pass := Enforcer.execute options ctx s.cache descriptors
        (options.ignoreCache = true → pass.cache = s.cache) ∧
          ∀ r ∈ pass.results, r.outcome = .skippedCached →
            ∃ earlier v later, (s.advance (.pass options ctx descriptors)).log = earlier ++ v :: later ∧
              v.result = r ∧ Vouched earlier v := by
  intro s
  have faithful := after_faithful events
  refine ⟨fun implementation => ⟨faithful.recorded implementation, s.cache.nodup_cacheIds implementation⟩,
    ?_, ?_⟩
  · intro v logged failed
    apply faithful.inert v logged
    rcases failed with unreserved | failed
    · simp [Visit.succeeded, unreserved]
    · simp [Visit.succeeded, failed]
  · intro options ctx descriptors pass
    constructor
    · intro ignores
      rw [show pass.cache = _ from Enforcer.execute_cache options ctx s.cache descriptors]
      unfold Enforcer.visits
      split
      · rfl
      · exact Enforcer.cacheAfter_ignoring ignores ctx 0 s.cache descriptors
    · intro r told skipped
      obtain ⟨v, walked, rfl⟩ := Enforcer.execute_results_mem told
      have next := faithful.advance (.pass options ctx descriptors)
      have logged : v ∈ (s.advance (.pass options ctx descriptors)).log := List.mem_append_right _ walked
      obtain ⟨earlier, later, split⟩ := List.append_of_mem logged
      exact ⟨earlier, v, later, split, rfl, next.vouched earlier v later split skipped⟩

end Session

end BuildGate
