import BuildGate.Proofs.Enforcement.Verdict

namespace BuildGate

namespace Options

def aggregating (options : Options) : Options :=
  { options with skip := false, failBuild := true, failFast := false }

def failingFast (options : Options) : Options :=
  { options with skip := false, failBuild := true, failFast := true }

def lenient (options : Options) : Options := { options with skip := false, failBuild := false }

end Options

def Covers (descriptors : List Descriptor) (results : List RuleResult) : Prop :=
  List.Forall₂ (fun entry r => r = entry.1.result entry.2 r.outcome) descriptors.zipIdx results

/-- How passes over the same rules end that tell failures together, tell the first one, and count none. -/
inductive Presented (descriptors : List Descriptor) :
    Except Failure Report → Except Failure Report → Except Failure Report → Prop
  | clean {report : Report} (covers : Covers descriptors report.results)
      (none : report.results.filterMap RuleResult.breach? = []) :
      Presented descriptors (.ok report) (.ok report) (.ok report)
  | violated {report : Report} {first : String} {rest : List String}
      (covers : Covers descriptors report.results)
      (texts : report.results.filterMap RuleResult.breach? = first :: rest) :
      Presented descriptors (.error (.aggregate (first :: rest))) (.error (.violation first)) (.ok report)
  | fatal {index : Nat} {implementation message : String} {report : Report}
      (none : report.results.filterMap RuleResult.breach? = []) :
      Presented descriptors (.error (.fatal index implementation message report))
        (.error (.fatal index implementation message report))
        (.error (.fatal index implementation message report))
  | fatalAfter {index : Nat} {implementation message : String} {report : Report} {first : String}
      {rest : List String} (texts : report.results.filterMap RuleResult.breach? = first :: rest) :
      Presented descriptors (.error (.fatal index implementation message report)) (.error (.violation first))
        (.error (.fatal index implementation message report))

namespace RuleResult

def isFatal (r : RuleResult) : Bool :=
  match r.outcome with
  | .fatallyErrored _ => true
  | .passed | .failed _ | .skippedCached => false

variable (options : Options) (r : RuleResult)

@[simp] theorem endsPass_aggregating : r.endsPass options.aggregating = r.isFatal := by
  unfold endsPass isFatal
  cases r.outcome <;> simp [Options.aggregating]

@[simp] theorem endsPass_lenient : r.endsPass options.lenient = r.isFatal := by
  unfold endsPass isFatal
  cases r.outcome <;> simp [Options.lenient]

@[simp] theorem endsPass_failingFast :
    r.endsPass options.failingFast = (r.isFatal || r.breach?.isSome) := by
  unfold endsPass isFatal breach?
  cases r.outcome <;> cases r.level <;> rfl

variable {options r}

theorem isFatal_iff : r.isFatal = true ↔ ∃ message, r.outcome = .fatallyErrored message := by
  unfold isFatal
  cases r.outcome <;> simp

theorem breach?_of_isFatal (broken : r.isFatal = true) : r.breach? = none := by
  obtain ⟨message, outcome⟩ := isFatal_iff.1 broken
  unfold breach?
  rw [outcome]
  cases r.level <;> rfl

end RuleResult

section Judged

variable {options : Options} {results : List RuleResult}

theorem exists_first_breach {first : String} {rest : List String}
    (texts : results.filterMap RuleResult.breach? = first :: rest) :
    ∃ before r after, results = before ++ r :: after ∧ (∀ b ∈ before, b.breach? = none) ∧
      r.breach? = some first := by
  obtain ⟨before, r, after, split, none, breach, -⟩ := List.filterMap_eq_cons_iff.1 texts
  exact ⟨before, r, after, split, none, breach⟩

theorem judgement_lenient (calm : ∀ r ∈ results, r.isFatal = false) :
    judgement options.lenient results = (results, .ok ⟨false, results⟩) := by
  have quiet : ∀ r ∈ results, r.endsPass options.lenient = false := by simpa using calm
  exact (Adjudicated.success quiet nofun).eq_judgement

theorem judgement_fatal {before after : List RuleResult} {r : RuleResult} {message : String}
    (calm : ∀ b ∈ before, b.endsPass options = false) (broken : r.outcome = .fatallyErrored message) :
    (judgement options (before ++ r :: after)).2 =
      .error (.fatal r.index r.implementation message ⟨false, before ++ [r]⟩) := by
  rw [(Adjudicated.fatal calm broken).eq_judgement]

theorem judgement_failingFast (options : Options) {first : String} {rest : List String}
    (after : List RuleResult) (calm : ∀ r ∈ results, r.isFatal = false)
    (texts : results.filterMap RuleResult.breach? = first :: rest) :
    (judgement options.failingFast (results ++ after)).2 = .error (.violation first) := by
  obtain ⟨before, r, more, rfl, unbroken, breach⟩ := exists_first_breach texts
  have quiet : ∀ b ∈ before, b.endsPass options.failingFast = false := by
    intro b member
    have mild := calm b (List.mem_append_left _ member)
    simp [mild, unbroken b member]
  rw [List.append_assoc, List.cons_append, (Adjudicated.failFast quiet rfl rfl breach).eq_judgement]

theorem judgement_failingFast_calm (options : Options) (calm : ∀ r ∈ results, r.isFatal = false)
    (none : results.filterMap RuleResult.breach? = []) :
    ∀ r ∈ results, r.endsPass options.failingFast = false := by
  intro r member
  have unbroken := List.filterMap_eq_nil_iff.1 none r member
  simp [calm r member, unbroken]

theorem Adjudicated.presented {descriptors : List Descriptor} {reached : List RuleResult}
    {outcome : Except Failure Report} (covers : Covers descriptors results)
    (judged : Adjudicated options.aggregating results reached outcome) :
    Presented descriptors outcome (judgement options.failingFast results).2
      (judgement options.lenient results).2 := by
  cases judged with
  | failFast calm breaks fast => cases fast
  | success calm tolerated =>
    have mild : ∀ r ∈ results, r.isFatal = false := by simpa using calm
    have none := tolerated rfl
    have quiet := judgement_failingFast_calm options mild none
    rw [judgement_lenient mild, (Adjudicated.success quiet fun _ => none).eq_judgement]
    exact .clean covers none
  | aggregate calm breaks violated =>
    have mild : ∀ r ∈ results, r.isFatal = false := by simpa using calm
    obtain ⟨first, rest, texts⟩ := List.exists_cons_of_ne_nil violated
    have fast := judgement_failingFast options [] mild texts
    rw [List.append_nil] at fast
    rw [fast, judgement_lenient mild, texts]
    exact .violated covers texts
  | @fatal before after r message calm broken =>
    have mild : ∀ b ∈ before, b.isFatal = false := by simpa using calm
    have lenient : ∀ b ∈ before, b.endsPass options.lenient = false := by simpa using mild
    have noBreach : r.breach? = none := RuleResult.breach?_of_isFatal (RuleResult.isFatal_iff.2 ⟨message, broken⟩)
    have told : (before ++ [r]).filterMap RuleResult.breach? = before.filterMap RuleResult.breach? := by
      simp [noBreach]
    rw [judgement_fatal lenient broken]
    cases texts : before.filterMap RuleResult.breach? with
    | nil =>
      rw [judgement_fatal (judgement_failingFast_calm options mild texts) broken]
      exact .fatal (told.trans texts)
    | cons first rest =>
      rw [judgement_failingFast options (r :: after) mild texts]
      exact .fatalAfter (told.trans texts)

end Judged

theorem Descriptor.visit_congr (d : Descriptor) {options other : Options}
    (alike : options.ignoreCache = other.ignoreCache) (ctx : Context) (index : Nat) (cache : Cache) :
    d.visit options ctx index cache = d.visit other ctx index cache := by
  have asks : d.lookup options cache = d.lookup other cache := by simp only [lookup, alike]
  have same : d.step options ctx index cache = d.step other ctx index cache := by simp only [step, asks]
  simp only [visit, asks, same]

namespace Enforcer

theorem trail_congr {options other : Options} (alike : options.ignoreCache = other.ignoreCache) (ctx : Context)
    (index : Nat) (cache : Cache) (descriptors : List Descriptor) :
    trail options ctx index cache descriptors = trail other ctx index cache descriptors := by
  induction descriptors generalizing index cache with
  | nil => rfl
  | cons d rest ih => rw [trail, trail, d.visit_congr alike, ih]

theorem reached_congr {options other : Options} {visits : List Visit}
    (alike : ∀ r : RuleResult, r.endsPass options = r.endsPass other) :
    reached options visits = reached other visits := by
  induction visits with
  | nil => rfl
  | cons v rest ih => rw [reached, reached, alike, ih]

theorem covers_trail (options : Options) (ctx : Context) (cache : Cache) (descriptors : List Descriptor) :
    Covers descriptors ((trail options ctx 0 cache descriptors).map Visit.result) := by
  rw [Covers, ← trail_zipIdx options ctx 0 cache descriptors, List.forall₂_map_left_iff,
    List.forall₂_map_right_iff, List.forall₂_same]
  exact fun v _ => rfl

/-- Failures told together, the first one told alone, and failures not counted: one pass, presented in
    three ways. Where all rules are walked in any case, the cache is left the same. -/
theorem execute_presented (options : Options) (ctx : Context) (cache : Cache) {descriptors : List Descriptor}
    (declared : descriptors ≠ []) :
    Presented descriptors (execute options.aggregating ctx cache descriptors).outcome
        (execute options.failingFast ctx cache descriptors).outcome
        (execute options.lenient ctx cache descriptors).outcome ∧
      (execute options.aggregating ctx cache descriptors).cache =
        (execute options.lenient ctx cache descriptors).cache := by
  have fastAsks : options.failingFast.ignoreCache = options.aggregating.ignoreCache := rfl
  have lenientAsks : options.lenient.ignoreCache = options.aggregating.ignoreCache := rfl
  constructor
  · have covers := covers_trail options.aggregating ctx cache descriptors
    have together := execute_judged options.aggregating ctx cache rfl declared
    have first := (execute_judged options.failingFast ctx cache rfl declared).eq_judgement
    have none := (execute_judged options.lenient ctx cache rfl declared).eq_judgement
    rw [trail_congr fastAsks] at first
    rw [trail_congr lenientAsks] at none
    have presented := together.presented covers
    rwa [first, none] at presented
  · rw [execute_reached _ ctx cache rfl declared, execute_reached _ ctx cache rfl declared,
      trail_congr lenientAsks]
    congr 1
    exact reached_congr fun r => by simp

/-- A violation comes before a fatal failure: told first where one is enough, dropped otherwise. -/
theorem execute_presented_fatal :
    let ctx := Context.new Host.bare Context.defaultBase
    let declared : List Descriptor := [
      ⟨"advice", "tests::Rule", .steady (.violation "A") none, .warn⟩,
      ⟨"first", "tests::Rule", .steady .passed (some "x"), .error⟩,
      ⟨"broken", "tests::Rule", .steady (.violation "B") none, .error⟩,
      ⟨"again", "tests::Rule", .steady .passed (some "x"), .error⟩,
      ⟨"ruin", "tests::Rule", .steady (.fatal "C") none, .warn⟩]
    let report : Report := ⟨false, [
      ⟨0, "advice", "tests::Rule", .warn, .failed "A"⟩, ⟨1, "first", "tests::Rule", .error, .passed⟩,
      ⟨2, "broken", "tests::Rule", .error, .failed "B"⟩,
      ⟨3, "again", "tests::Rule", .error, .skippedCached⟩,
      ⟨4, "ruin", "tests::Rule", .warn, .fatallyErrored "C"⟩]⟩
    declared ≠ [] ∧
      (execute Options.default.aggregating ctx .empty declared).outcome =
        .error (.fatal 4 "tests::Rule" "C" report) ∧
      (execute Options.default.failingFast ctx .empty declared).outcome =
        .error (.violation "Rule 2: tests::Rule failed with message:\nB") ∧
      (execute Options.default.lenient ctx .empty declared).outcome =
        .error (.fatal 4 "tests::Rule" "C" report) := by
  intro ctx declared report
  have nonempty : declared ≠ [] := List.cons_ne_nil _ _
  have together : (execute Options.default.aggregating ctx .empty declared).outcome =
      .error (.fatal 4 "tests::Rule" "C" report) := by decide
  have texts : report.results.filterMap RuleResult.breach? =
      ["Rule 2: tests::Rule failed with message:\nB"] := by decide
  obtain ⟨presented, -⟩ := execute_presented .default ctx .empty nonempty
  refine ⟨nonempty, together, ?_⟩
  rw [together] at presented
  generalize (execute Options.default.failingFast ctx .empty declared).outcome = fast at presented ⊢
  generalize (execute Options.default.lenient ctx .empty declared).outcome = lenient at presented ⊢
  cases presented with
  | fatal none => cases none.symm.trans texts
  | fatalAfter told =>
    obtain ⟨rfl, -⟩ := List.cons.inj (told.symm.trans texts)
    exact ⟨rfl, rfl⟩

end Enforcer

end BuildGate
