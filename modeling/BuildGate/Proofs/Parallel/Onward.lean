import BuildGate.Proofs.Parallel.Exposed

namespace BuildGate

namespace Stage

def At (rest : List Descriptor) (stage : Stage) : Prop :=
  ∃ progress, stage = .waiting progress rest ∧ progress.failures = []

/-- A check is held for a rule that fails without breaking the build. -/
def Keeps (ctx : Context) (check : Check) (rest : List Descriptor) (stage : Stage) : Prop :=
  ∃ progress d, stage = .running progress d (.reserved check.2) rest ∧ progress.failures = [] ∧
    d.check? = some check ∧ d.breaks ctx = false ∧ d.kind ctx ≠ .passed

def EndedWell (stage : Stage) : Prop := ∃ report, stage = .ended (.ok report)

end Stage

def criticalChecks (descriptors : List Descriptor) (ctx : Context) : List Check :=
  (descriptors.filter (·.breaks ctx)).filterMap (·.check?)

abbrev Critical (descriptors : List Descriptor) (ctx : Context) : Type :=
  { check : Check // check ∈ criticalChecks descriptors ctx }

theorem kind_of_critical {descriptors : List Descriptor} {ctx : Context}
    (uniform : Uniform {ctx} descriptors) (k : Critical descriptors ctx) {d : Descriptor}
    (listed : d ∈ descriptors) (named : d.check? = some k.1) : d.kind ctx ≠ .passed := by
  obtain ⟨e, member, same⟩ := List.mem_filterMap.1 k.2
  obtain ⟨known, breaks⟩ := List.mem_filter.1 member
  rw [uniform.alike ctx rfl ctx rfl d listed e known ⟨k.1, named, same⟩]
  exact Descriptor.kind_of_breaks breaks

theorem calm_visit {options : Options} {ctx : Context} {descriptors : List Descriptor}
    (uniform : Uniform {ctx} descriptors) (asks : options.ignoreCache = false) {cache : Cache}
    {d : Descriptor} (listed : d ∈ descriptors)
    (covered : d.breaks ctx = true → ∃ check, d.check? = some check ∧ cache.knows check = true) (index : Nat) :
    (d.visit options ctx index cache).result.counts = false ∧
      ∀ k : Critical descriptors ctx,
        (d.visit options ctx index cache).step.cache.knows k.1 = cache.knows k.1 := by
  have shape : (d.visit options ctx index cache).result =
      d.result index (d.visit options ctx index cache).step.outcome := rfl
  cases breaks : d.breaks ctx with
  | true =>
    obtain ⟨check, named, known⟩ := covered breaks
    obtain ⟨hit, same⟩ := Cache.told_known asks (uniform.hooks d listed) named known
    have left : (d.visit options ctx index cache).step.cache = cache := by
      simp only [Descriptor.visit, Descriptor.step_cache, hit, same, true_or, ↓reduceIte]
    have skipped : (d.visit options ctx index cache).step.outcome = .skippedCached := by
      simp only [Descriptor.visit, Descriptor.step_outcome, hit, ↓reduceIte]
    rw [shape, left, skipped]
    exact ⟨rfl, fun _ => rfl⟩
  | false =>
    have stepped := d.stepped options ctx index cache
    rw [shape]
    generalize (d.visit options ctx index cache).answer = answer at stepped
    generalize (d.visit options ctx index cache).step = step at stepped
    cases stepped with
    | reused => exact ⟨rfl, fun _ => rfl⟩
    | apart | doubted | givenBack => exact ⟨(d.counts_iff_breaks ctx _).trans breaks, fun _ => rfl⟩
    | @kept id asks unknown passes =>
      refine ⟨rfl, fun k => ?_⟩
      have different : k.1 ≠ (d.implementation, id) := by
        intro same
        refine kind_of_critical uniform k listed ?_ ((d.kind_passed_iff ctx).2 passes)
        rw [Descriptor.check?, asks.named, same, Option.map_some]
      have recorded := @Cache.knows_record cache (d.implementation, id) unknown k.1
      rw [or_iff_right different] at recorded
      exact Bool.eq_iff_iff.2 recorded

namespace Crew

variable {ι : Type} [DecidableEq ι] {options : Options} {ctx : Context} {descriptors : List Descriptor}

structure Onward (options : Options) (ctx : Context) (i : ι) (crew next : Crew ι) : Prop where
  reaches : Reaches options (fun _ => ctx) crew next
  others : ∀ j, j ≠ i → next.stage j = crew.stage j

theorem Onward.refl (i : ι) (crew : Crew ι) : Onward options ctx i crew crew :=
  ⟨.refl _ _ crew, fun _ _ => rfl⟩

theorem Onward.trans {i : ι} {first second third : Crew ι} (left : Onward options ctx i first second)
    (right : Onward options ctx i second third) : Onward options ctx i first third :=
  ⟨left.reaches.trans right.reaches, fun j other => (right.others j other).trans (left.others j other)⟩

theorem Onward.solo {i : ι} {crew : Crew ι} {w : Worker} {cache : Cache}
    (alone : Worker.Solo options ctx (crew.worker i, crew.cache) (w, cache)) :
    Onward options ctx i crew ⟨cache, Function.update crew.worker i w⟩ :=
  ⟨.solo alone, fun j other => by simp only [stage, Function.update_of_ne other]⟩

theorem pass_rule (uniform : Uniform {ctx} descriptors) (asks : options.ignoreCache = false) {crew : Crew ι}
    {i : ι} {d : Descriptor} {rest : List Descriptor} (listed : d ∈ descriptors)
    (here : (crew.stage i).At (d :: rest))
    (covered : d.breaks ctx = true → ∃ check, d.check? = some check ∧ crew.cache.knows check = true) :
    ∃ next, Onward options ctx i crew next ∧ (next.stage i).At rest ∧
      ∀ k : Critical descriptors ctx, next.cache.knows k.1 = crew.cache.knows k.1 := by
  obtain ⟨progress, stage, failures⟩ := here
  have worker : crew.worker i = ⟨(crew.worker i).notices, .waiting progress (d :: rest)⟩ := by
    rw [← stage]
    rfl
  have alone := Worker.solo_rule options ctx (crew.worker i).notices progress d rest crew.cache
  rw [← worker] at alone
  obtain ⟨calm, same⟩ := calm_visit uniform asks listed covered progress.index
  dsimp only at alone
  rw [Progress.settle_calm calm] at alone
  refine ⟨_, .solo alone, ?_, same⟩
  simp only [Crew.stage, Function.update_self]
  exact ⟨_, rfl, failures⟩

/-- A worker passes by rules whose failures are covered. The induction is on these rules. -/
theorem glide (uniform : Uniform {ctx} descriptors) (asks : options.ignoreCache = false) {i : ι}
    (passed : List Descriptor) {rest : List Descriptor} (listed : ∀ d ∈ passed, d ∈ descriptors) {crew : Crew ι}
    (here : (crew.stage i).At (passed ++ rest))
    (covered : ∀ d ∈ passed, d.breaks ctx = true →
      ∃ k : Critical descriptors ctx, d.check? = some k.1 ∧ crew.cache.knows k.1 = true) :
    ∃ next, Onward options ctx i crew next ∧ (next.stage i).At rest ∧
      ∀ k : Critical descriptors ctx, next.cache.knows k.1 = crew.cache.knows k.1 := by
  induction passed generalizing crew with
  | nil => exact ⟨crew, .refl i crew, here, fun _ => rfl⟩
  | cons d more ih =>
    have coveredHere : d.breaks ctx = true → ∃ check, d.check? = some check ∧ crew.cache.knows check = true := by
      intro breaks
      obtain ⟨k, named, known⟩ := covered d List.mem_cons_self breaks
      exact ⟨k.1, named, known⟩
    obtain ⟨next, onward, place, same⟩ :=
      pass_rule uniform asks (listed d List.mem_cons_self) here coveredHere
    obtain ⟨last, further, arrived, still⟩ :=
      ih (fun e member => listed e (List.mem_cons_of_mem d member)) place (by
        intro e member breaks
        obtain ⟨k, named, known⟩ := covered e (List.mem_cons_of_mem d member) breaks
        exact ⟨k, named, (same k).trans known⟩)
    exact ⟨last, onward.trans further, arrived, fun k => (still k).trans (same k)⟩

theorem onward_moved (uniform : Uniform {ctx} descriptors) (asks : options.ignoreCache = false) {crew : Crew ι}
    {i : ι} {stage : Stage} (here : crew.stage i = stage) (listed : ∀ d ∈ stage.ahead, d ∈ descriptors) :
    ∃ next, Onward options ctx i crew next ∧
      stage.Moved options ctx crew.cache (next.stage i) next.cache := by
  subst here
  refine ⟨crew.step options (fun _ => ctx) i, ⟨.step _ _ crew i, fun j other => ?_⟩, ?_⟩
  · exact crew.stage_step_other options _ other
  · rw [stage_step_self]
    exact Worker.moved asks ctx _ _ fun d member => uniform.hooks d (listed d member)

theorem reserve (uniform : Uniform {ctx} descriptors) (asks : options.ignoreCache = false) {crew : Crew ι}
    {i : ι} {d : Descriptor} {rest : List Descriptor} (listed : ∀ e ∈ d :: rest, e ∈ descriptors)
    (here : (crew.stage i).At (d :: rest))
    {k : Critical descriptors ctx} (named : d.check? = some k.1) (calm : d.breaks ctx = false)
    (unknown : crew.cache.knows k.1 = false) :
    ∃ next, Onward options ctx i crew next ∧ (next.stage i).Keeps ctx k.1 rest ∧
      ∀ check, next.cache.knows check = true ↔ check = k.1 ∨ crew.cache.knows check = true := by
  obtain ⟨progress, stage, failures⟩ := here
  obtain ⟨next, onward, moved⟩ := onward_moved uniform asks stage listed
  refine ⟨next, onward, ?_⟩
  generalize next.stage i = after at moved
  generalize next.cache = left at moved
  cases moved with
  | skips other known =>
    cases named.symm.trans other
    cases known.symm.trans unknown
  | goesAlone unnamed => cases named.symm.trans unnamed
  | reserves other fresh =>
    cases named.symm.trans other
    have fails := kind_of_critical uniform k (listed d List.mem_cons_self) named
    exact ⟨⟨progress, d, rfl, failures, named, calm, fails⟩, crew.cache.knows_record fresh⟩

theorem giveUp (uniform : Uniform {ctx} descriptors) (asks : options.ignoreCache = false) {crew : Crew ι}
    {i : ι} {check : Check} {rest : List Descriptor}
    (listed : ∀ e ∈ rest, e ∈ descriptors) (here : (crew.stage i).Keeps ctx check rest) :
    ∃ next, Onward options ctx i crew next ∧ (next.stage i).At rest ∧
      ∀ other, next.cache.knows other = true ↔ other ≠ check ∧ crew.cache.knows other = true := by
  obtain ⟨progress, d, stage, failures, named, calm, fails⟩ := here
  obtain ⟨next, onward, moved⟩ := onward_moved uniform asks stage listed
  refine ⟨next, onward, ?_⟩
  generalize next.stage i = after at moved
  generalize next.cache = left at moved
  cases moved with
  | finishes =>
    have failed : (d.rule.run ctx).verdict ≠ .passed := fun passes => fails ((d.kind_passed_iff ctx).2 passes)
    rw [if_neg failed, Descriptor.giveBack_reserved named,
      Progress.settle_calm ((d.counts_iff_breaks ctx _).trans calm)]
    exact ⟨⟨_, rfl, failures⟩, crew.cache.knows_release check⟩

theorem conclude (uniform : Uniform {ctx} descriptors) (asks : options.ignoreCache = false) {crew : Crew ι}
    {i : ι} (here : (crew.stage i).At []) :
    ∃ next, Onward options ctx i crew next ∧ (next.stage i).EndedWell ∧ next.cache = crew.cache := by
  obtain ⟨progress, stage, failures⟩ := here
  obtain ⟨next, onward, moved⟩ := onward_moved uniform asks stage fun d member => by cases member
  refine ⟨next, onward, ?_⟩
  generalize next.stage i = after at moved
  generalize next.cache = left at moved
  cases moved with
  | concludes =>
    rw [failures]
    exact ⟨⟨_, rfl⟩, rfl⟩

theorem glide_out (uniform : Uniform {ctx} descriptors) (asks : options.ignoreCache = false) {i : ι}
    {rest : List Descriptor} (listed : ∀ d ∈ rest, d ∈ descriptors) {crew : Crew ι}
    (here : (crew.stage i).At rest)
    (covered : ∀ d ∈ rest, d.breaks ctx = true →
      ∃ k : Critical descriptors ctx, d.check? = some k.1 ∧ crew.cache.knows k.1 = true) :
    ∃ next, Onward options ctx i crew next ∧ (next.stage i).EndedWell ∧
      ∀ k : Critical descriptors ctx, next.cache.knows k.1 = crew.cache.knows k.1 := by
  have start : (crew.stage i).At (rest ++ []) := by rwa [List.append_nil]
  obtain ⟨middle, went, arrived, same⟩ := glide uniform asks rest listed start covered
  obtain ⟨next, ends, well, unchanged⟩ := conclude uniform asks arrived
  exact ⟨next, went.trans ends, well, unchanged ▸ same⟩

end Crew

end BuildGate
