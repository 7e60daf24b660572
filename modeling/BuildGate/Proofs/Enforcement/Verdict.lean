import Mathlib.Data.List.TakeWhile
import BuildGate.Proofs.Enforcement.Trail

namespace BuildGate

/-- How far a pass gets among the results of its rules, and how it ends. -/
inductive Adjudicated (options : Options) :
    List RuleResult → List RuleResult → Except Failure Report → Prop
  | fatal {before after : List RuleResult} {r : RuleResult} {message : String}
      (calm : ∀ b ∈ before, b.endsPass options = false) (broken : r.outcome = .fatallyErrored message) :
      Adjudicated options (before ++ r :: after) (before ++ [r])
        (.error (.fatal r.index r.implementation message ⟨false, before ++ [r]⟩))
  | failFast {before after : List RuleResult} {r : RuleResult} {text : String}
      (calm : ∀ b ∈ before, b.endsPass options = false) (breaks : options.failBuild = true)
      (fast : options.failFast = true) (breach : r.breach? = some text) :
      Adjudicated options (before ++ r :: after) (before ++ [r]) (.error (.violation text))
  | aggregate {results : List RuleResult} (calm : ∀ r ∈ results, r.endsPass options = false)
      (breaks : options.failBuild = true) (violated : results.filterMap RuleResult.breach? ≠ []) :
      Adjudicated options results results (.error (.aggregate (results.filterMap RuleResult.breach?)))
  | success {results : List RuleResult} (calm : ∀ r ∈ results, r.endsPass options = false)
      (tolerated : options.failBuild = true → results.filterMap RuleResult.breach? = []) :
      Adjudicated options results results (.ok ⟨false, results⟩)

namespace RuleResult

theorem endsPass_of_fatal {options : Options} {r : RuleResult} {message : String}
    (broken : r.outcome = .fatallyErrored message) : r.endsPass options = true := by
  simp only [endsPass, broken]

theorem breach?_eq_some {r : RuleResult} {text : String} (breach : r.breach? = some text) :
    r.level = .error ∧ ∃ message, r.outcome = .failed message ∧
      text = failureText r.index r.implementation message := by
  unfold breach? at breach
  split at breach
  · rename_i message level outcome
    exact ⟨level, message, outcome, (Option.some.inj breach).symm⟩
  · cases breach

theorem endsPass_of_breach {options : Options} {r : RuleResult} {text : String}
    (breaks : options.failBuild = true) (fast : options.failFast = true) (breach : r.breach? = some text) :
    r.endsPass options = true := by
  obtain ⟨level, message, violated, -⟩ := breach?_eq_some breach
  simp [endsPass, violated, level, breaks, fast]

end RuleResult

def judgement (options : Options) (results : List RuleResult) :
    List RuleResult × Except Failure Report :=
  let before := results.takeWhile fun r => !r.endsPass options
  match results.dropWhile fun r => !r.endsPass options with
  | [] => (results, Enforcer.conclude results (Enforcer.deferred options results))
  | r :: _ => (before ++ [r], .error (r.failure before))

theorem judgement_ending {options : Options} {before after : List RuleResult} {r : RuleResult}
    (calm : ∀ b ∈ before, b.endsPass options = false) (ends : r.endsPass options = true) :
    judgement options (before ++ r :: after) = (before ++ [r], .error (r.failure before)) := by
  have quiet : ∀ b ∈ before, (!b.endsPass options) = true := fun b member => by simp [calm b member]
  simp only [judgement]
  rw [List.takeWhile_append_of_pos quiet, List.dropWhile_append_of_pos quiet, List.takeWhile_cons,
    List.dropWhile_cons]
  simp only [ends, Bool.not_true, Bool.false_eq_true, ↓reduceIte, List.append_nil]

theorem judgement_calm {options : Options} {results : List RuleResult}
    (calm : ∀ r ∈ results, r.endsPass options = false) :
    judgement options results =
      (results, Enforcer.conclude results (Enforcer.deferred options results)) := by
  have quiet : ∀ r ∈ results, (!r.endsPass options) = true := fun r member => by simp [calm r member]
  simp only [judgement]
  rw [List.dropWhile_eq_nil_iff.2 quiet]

theorem Adjudicated.eq_judgement {options : Options} {results reached : List RuleResult}
    {outcome : Except Failure Report} (judged : Adjudicated options results reached outcome) :
    judgement options results = (reached, outcome) := by
  cases judged with
  | fatal calm broken =>
    rw [judgement_ending calm (RuleResult.endsPass_of_fatal broken)]
    simp only [RuleResult.failure, broken]
  | failFast calm breaks fast breach =>
    obtain ⟨-, message, violated, rfl⟩ := RuleResult.breach?_eq_some breach
    rw [judgement_ending calm (RuleResult.endsPass_of_breach breaks fast breach)]
    simp only [RuleResult.failure, violated]
  | aggregate calm breaks violated =>
    rw [judgement_calm calm]
    simp only [Enforcer.deferred, breaks, ↓reduceIte]
    cases texts : results.filterMap RuleResult.breach? with
    | nil => exact absurd texts violated
    | cons text more => rfl
  | success calm tolerated =>
    rw [judgement_calm calm]
    have none : Enforcer.deferred options results = [] := by
      unfold Enforcer.deferred
      split
      · rename_i breaks
        exact tolerated breaks
      · rfl
    rw [none]
    rfl

theorem Adjudicated.of_endsPass {options : Options} {before : List RuleResult} (after : List RuleResult)
    {r : RuleResult} (calm : ∀ b ∈ before, b.endsPass options = false) (ends : r.endsPass options = true) :
    Adjudicated options (before ++ r :: after) (before ++ [r]) (.error (r.failure before)) := by
  cases outcome : r.outcome with
  | passed | skippedCached => simp [RuleResult.endsPass, outcome] at ends
  | fatallyErrored message => simpa only [RuleResult.failure, outcome] using .fatal calm outcome
  | failed message =>
    simp only [RuleResult.endsPass, outcome, Bool.and_eq_true, beq_iff_eq] at ends
    have breach : r.breach? = some (failureText r.index r.implementation message) := by
      simp [RuleResult.breach?, ends.1.1, outcome, failureText]
    simpa only [RuleResult.failure, outcome] using .failFast calm ends.1.2 ends.2 breach

theorem Adjudicated.of_calm {options : Options} {results : List RuleResult}
    (calm : ∀ r ∈ results, r.endsPass options = false) :
    Adjudicated options results results
      (Enforcer.conclude results (Enforcer.deferred options results)) := by
  cases texts : Enforcer.deferred options results with
  | nil =>
    refine .success calm fun breaks => ?_
    simpa only [Enforcer.deferred, breaks, ↓reduceIte] using texts
  | cons text more =>
    unfold Enforcer.deferred at texts
    split at texts
    · rename_i breaks
      have some : results.filterMap RuleResult.breach? ≠ [] := by simp [texts]
      simpa only [texts, Enforcer.conclude] using Adjudicated.aggregate calm breaks some
    · cases texts

namespace Enforcer

theorem walk_adjudicated (options : Options) (ctx : Context) (descriptors : List Descriptor) (index : Nat)
    (cache : Cache) (past : List RuleResult) (calm : ∀ r ∈ past, r.endsPass options = false) :
    Adjudicated options (past ++ (trail options ctx index cache descriptors).map Visit.result)
      (past ++ (reached options (trail options ctx index cache descriptors)).map Visit.result)
      (walk options ctx index cache past (deferred options past) descriptors).outcome := by
  induction descriptors generalizing index cache past with
  | nil => simpa [trail, reached, walk] using Adjudicated.of_calm calm
  | cons d rest ih =>
    rw [walk_cons _ _ _ _ _ _ _ _ _ rfl, trail, reached]
    split
    · rename_i ends
      exact .of_endsPass _ calm ends
    · rename_i goesOn
      have calmer : ∀ r ∈ past ++ [(d.visit options ctx index cache).result], r.endsPass options = false := by
        intro r member
        rcases List.mem_append.1 member with member | member
        · exact calm r member
        · rw [List.mem_singleton.1 member]
          simpa using goesOn
      have later := ih (index + 1) (d.visit options ctx index cache).step.cache _ calmer
      rw [deferred_append] at later
      simpa [Pass.after] using later

theorem execute_eq_walk {options : Options} (ctx : Context) (cache : Cache) {descriptors : List Descriptor}
    (active : options.skip = false) (declared : descriptors ≠ []) :
    execute options ctx cache descriptors = walk options ctx 0 cache [] [] descriptors := by
  simp [execute, active, declared]

theorem execute_judged (options : Options) (ctx : Context) (cache : Cache) {descriptors : List Descriptor}
    (active : options.skip = false) (declared : descriptors ≠ []) :
    Adjudicated options ((trail options ctx 0 cache descriptors).map Visit.result)
      ((reached options (trail options ctx 0 cache descriptors)).map Visit.result)
      (execute options ctx cache descriptors).outcome := by
  rw [execute_eq_walk ctx cache active declared]
  simpa [deferred] using walk_adjudicated options ctx descriptors 0 cache [] (by simp)

theorem execute_reached (options : Options) (ctx : Context) (cache : Cache) {descriptors : List Descriptor}
    (active : options.skip = false) (declared : descriptors ≠ []) :
    (execute options ctx cache descriptors).cache =
      cacheAfter cache (reached options (trail options ctx 0 cache descriptors)) := by
  rw [execute_eq_walk ctx cache active declared, walk_cache]

theorem trail_zipIdx (options : Options) (ctx : Context) (index : Nat) (cache : Cache)
    (descriptors : List Descriptor) :
    (trail options ctx index cache descriptors).map (fun v => (v.descriptor, v.index)) =
      descriptors.zipIdx index := by
  induction descriptors generalizing index cache with
  | nil => rfl
  | cons d rest ih =>
    rw [trail, List.zipIdx_cons, List.map_cons, ih]
    rfl

theorem trail_visit {options : Options} {ctx : Context} {index : Nat} {cache : Cache}
    {descriptors : List Descriptor} {before after : List Visit} {v : Visit}
    (place : trail options ctx index cache descriptors = before ++ v :: after) :
    v = v.descriptor.visit options ctx v.index (cacheAfter cache before) := by
  induction descriptors generalizing index cache before with
  | nil => simp [trail] at place
  | cons d rest ih =>
    rw [trail] at place
    cases before with
    | nil =>
      simp only [List.nil_append, List.cons.injEq] at place
      obtain ⟨rfl, -⟩ := place
      rfl
    | cons first more =>
      simp only [List.cons_append, List.cons.injEq] at place
      obtain ⟨rfl, tail⟩ := place
      have found := ih tail
      exact found

theorem results_index (options : Options) (ctx : Context) (cache : Cache) (descriptors : List Descriptor) :
    ((trail options ctx 0 cache descriptors).map Visit.result).map (·.index) =
      List.range descriptors.length := by
  have indices := congrArg (List.map Prod.snd) (trail_zipIdx options ctx 0 cache descriptors)
  rw [List.map_map] at indices ⊢
  rw [List.range_eq_range', ← List.zipIdx_map_snd 0 descriptors]
  exact indices

theorem fatal_report {options : Options} {results reached : List RuleResult} {index count : Nat}
    {implementation message : String} {report : Report}
    (judged : Adjudicated options results reached (.error (.fatal index implementation message report)))
    (places : results.map (·.index) = List.range count) :
    report.results.map (·.index) = List.range (index + 1) ∧
      ∃ before r, report.results = before ++ [r] ∧ r.outcome = .fatallyErrored message ∧
        ∀ b ∈ before, ∀ text, b.outcome ≠ .fatallyErrored text := by
  cases judged with
  | @fatal before after r _ calm broken =>
    have length : before.length < count := by
      have total := congrArg List.length places
      simp only [List.length_map, List.length_append, List.length_cons, List.length_range] at total
      omega
    have here : r.index = before.length := by
      have place := congrArg (·[before.length]?) places
      simpa [length] using place
    refine ⟨?_, before, r, rfl, broken, ?_⟩
    · have upTo := congrArg (List.take (before.length + 1)) places
      rw [List.map_append, List.map_cons, List.take_append] at upTo
      simp only [List.length_map, List.take_range] at upTo
      rw [here]
      have enough : min (before.length + 1) count = before.length + 1 := by omega
      simpa [enough, List.take_of_length_le] using upTo
    · intro b member text ends
      have quiet := calm b member
      rw [RuleResult.endsPass_of_fatal ends] at quiet
      cases quiet

/-- Every rule in its place is skipped on a hit and run otherwise; the results decide how far the pass gets
    and how it ends, and what it says and leaves behind stems from the rules that it got to. -/
theorem execute_adjudicated (options : Options) (ctx : Context) (cache : Cache)
    (descriptors : List Descriptor) (active : options.skip = false) (declared : descriptors ≠ []) :
    let visits := trail options ctx 0 cache descriptors
    let walked := reached options visits
    let pass := execute options ctx cache descriptors
    visits.map (fun v => (v.descriptor, v.index)) = descriptors.zipIdx ∧
      (∀ before v after, visits = before ++ v :: after →
        v.before = cacheAfter cache before ∧
          v.descriptor.Stepped options ctx v.index v.before v.answer v.step) ∧
      (∀ results outcome, Adjudicated options (visits.map Visit.result) results outcome ↔
        results = walked.map Visit.result ∧ outcome = pass.outcome) ∧
      pass.cache = cacheAfter cache walked ∧
      pass.notices = walked.flatMap (Visit.notices options) ∧
      ∀ index implementation message report,
        pass.outcome = .error (.fatal index implementation message report) →
        report.results.map (·.index) = List.range (index + 1) ∧
          ∃ before r, report.results = before ++ [r] ∧ r.outcome = .fatallyErrored message ∧
            ∀ b ∈ before, ∀ text, b.outcome ≠ .fatallyErrored text := by
  intro visits walked pass
  have asWalk : pass = walk options ctx 0 cache [] [] descriptors := execute_eq_walk ctx cache active declared
  have judged : Adjudicated options (visits.map Visit.result) (walked.map Visit.result) pass.outcome := by
    rw [asWalk]
    simpa [deferred] using walk_adjudicated options ctx descriptors 0 cache [] (by simp)
  refine ⟨trail_zipIdx options ctx 0 cache descriptors, ?_, ?_, ?_, ?_, ?_⟩
  · intro before v after place
    have visited := trail_visit place
    have stepped := v.descriptor.stepped options ctx v.index (cacheAfter cache before)
    rw [← visited] at stepped
    have found : v.before = cacheAfter cache before := congrArg Visit.before visited
    exact ⟨found, found ▸ stepped⟩
  · intro results outcome
    constructor
    · intro other
      exact Prod.mk.inj (other.eq_judgement.symm.trans judged.eq_judgement)
    · rintro ⟨rfl, rfl⟩
      exact judged
  · rw [asWalk]
    exact walk_cache options ctx 0 cache [] [] descriptors
  · rw [asWalk]
    exact walk_notices options ctx 0 cache [] [] descriptors
  · intro index implementation message report ends
    rw [ends] at judged
    exact fatal_report judged (results_index options ctx cache descriptors)

/-- Two passes over one cache: violations told together, then a hit in front of a fatal failure. -/
theorem execute_adjudicated_aggregate :
    let ctx := Context.new Host.bare Context.defaultBase
    let declared : List Descriptor := [
      ⟨"first", "tests::Rule", .steady .passed (some "x"), .error⟩,
      ⟨"broken", "tests::Rule", .steady (.violation "A") none, .error⟩,
      ⟨"advice", "tests::Rule", .steady (.violation "B") none, .warn⟩,
      ⟨"last", "tests::Rule", .steady (.violation "C") none, .error⟩]
    let further : List Descriptor := [
      ⟨"again", "tests::Rule", .steady .passed (some "x"), .error⟩,
      ⟨"ruin", "tests::Rule", .steady (.fatal "D") (some "y"), .warn⟩,
      ⟨"unseen", "tests::Rule", .steady .passed (some "z"), .error⟩]
    let pass := execute .default ctx .empty declared
    let next := execute .default ctx pass.cache further
    Options.default.skip = false ∧ declared ≠ [] ∧ further ≠ [] ∧
      pass.outcome = .error (.aggregate [
        "Rule 1: tests::Rule failed with message:\nA", "Rule 3: tests::Rule failed with message:\nC"]) ∧
      next.outcome = .error (.fatal 1 "tests::Rule" "D" ⟨false, [
        ⟨0, "again", "tests::Rule", .error, .skippedCached⟩,
        ⟨1, "ruin", "tests::Rule", .warn, .fatallyErrored "D"⟩]⟩) ∧
      next.cache.cacheIds "tests::Rule" = ["x"] := by
  intro ctx declared further pass next
  have nonempty : declared ≠ [] := List.cons_ne_nil _ _
  have more : further ≠ [] := List.cons_ne_nil _ _
  obtain ⟨-, -, verdict, -⟩ := execute_adjudicated .default ctx .empty declared rfl nonempty
  obtain ⟨-, -, verdictNext, kept, -⟩ := execute_adjudicated .default ctx pass.cache further rfl more
  let results : List RuleResult := [
    ⟨0, "first", "tests::Rule", .error, .passed⟩, ⟨1, "broken", "tests::Rule", .error, .failed "A"⟩,
    ⟨2, "advice", "tests::Rule", .warn, .failed "B"⟩, ⟨3, "last", "tests::Rule", .error, .failed "C"⟩]
  let again : RuleResult := ⟨0, "again", "tests::Rule", .error, .skippedCached⟩
  let ruin : RuleResult := ⟨1, "ruin", "tests::Rule", .warn, .fatallyErrored "D"⟩
  let unseen : RuleResult := ⟨2, "unseen", "tests::Rule", .error, .passed⟩
  have computed : (trail .default ctx 0 .empty declared).map Visit.result = results := by decide
  have computedNext : (trail .default ctx 0 pass.cache further).map Visit.result =
      [again] ++ ruin :: [unseen] := by decide
  have judged : Adjudicated .default results results (.error (.aggregate [
      "Rule 1: tests::Rule failed with message:\nA", "Rule 3: tests::Rule failed with message:\nC"])) :=
    .aggregate (by decide) rfl (by decide)
  have judgedNext : Adjudicated .default ([again] ++ ruin :: [unseen]) ([again] ++ [ruin])
      (.error (.fatal 1 "tests::Rule" "D" ⟨false, [again] ++ [ruin]⟩)) := .fatal (by decide) rfl
  refine ⟨rfl, nonempty, more, ((verdict _ _).1 (computed ▸ judged)).2.symm,
    ((verdictNext _ _).1 (computedNext ▸ judgedNext)).2.symm, ?_⟩
  rw [show next.cache = _ from kept]
  decide

end Enforcer

end BuildGate
