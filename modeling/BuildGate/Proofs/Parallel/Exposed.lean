import Mathlib.Data.List.Induction
import BuildGate.Proofs.Parallel.Stage

namespace BuildGate

inductive Verdict.Kind where
  | passed
  | violation
  | fatal
  deriving DecidableEq, Repr

def Verdict.kind : Verdict → Verdict.Kind
  | .passed => .passed
  | .violation _ => .violation
  | .fatal _ => .fatal

namespace Descriptor

def SameCheck (d e : Descriptor) : Prop := ∃ check, d.check? = some check ∧ e.check? = some check

def kind (d : Descriptor) (ctx : Context) : Verdict.Kind := (d.rule.run ctx).verdict.kind

theorem kind_passed_iff (d : Descriptor) (ctx : Context) :
    d.kind ctx = .passed ↔ (d.rule.run ctx).verdict = .passed := by
  unfold kind
  cases (d.rule.run ctx).verdict <;> simp [Verdict.kind]

theorem breaks_eq (d : Descriptor) (ctx : Context) :
    d.breaks ctx = (d.kind ctx == .fatal || (d.kind ctx == .violation && d.level == .error)) := by
  unfold breaks kind
  cases (d.rule.run ctx).verdict <;> cases d.level <;> rfl

theorem breaks_of_error {d : Descriptor} {ctx : Context} (level : d.level = .error)
    (fails : (d.rule.run ctx).verdict ≠ .passed) : d.breaks ctx = true := by
  unfold breaks
  cases verdict : (d.rule.run ctx).verdict with
  | passed => exact absurd verdict fails
  | violation message => simp only [level, beq_self_eq_true]
  | fatal message => rfl

theorem kind_of_breaks {d : Descriptor} {ctx : Context} (breaks : d.breaks ctx = true) : d.kind ctx ≠ .passed := by
  intro passes
  rw [breaks_eq, passes] at breaks
  cases breaks

theorem breaks_congr {d e : Descriptor} {ctx other : Context} (kind : d.kind ctx = e.kind other)
    (level : d.level = e.level) : d.breaks ctx = e.breaks other := by
  rw [breaks_eq, breaks_eq, kind, level]

end Descriptor

/-- Rules with the usual hooks, whose outcome depends on the check alone where they have one. -/
structure Uniform (contexts : Set Context) (descriptors : List Descriptor) : Prop where
  hooks : ∀ d ∈ descriptors, d.rule.LeavesHooks
  alike : ∀ ctx ∈ contexts, ∀ other ∈ contexts, ∀ d ∈ descriptors, ∀ e ∈ descriptors, d.SameCheck e →
    d.kind ctx = e.kind other

theorem Uniform.mono {contexts some : Set Context} {descriptors : List Descriptor}
    (uniform : Uniform contexts descriptors) (part : some ⊆ contexts) : Uniform some descriptors :=
  ⟨uniform.hooks, fun ctx here other there => uniform.alike ctx (part here) other (part there)⟩

theorem Uniform.of_steady {verdict : Verdict} {cacheId : Option String} {descriptors : List Descriptor}
    (steady : ∀ d ∈ descriptors, d.rule = .steady verdict cacheId) (contexts : Set Context) :
    Uniform contexts descriptors := by
  constructor
  · intro d member
    rw [steady d member]
    exact ⟨rfl, fun _ => rfl⟩
  · intro ctx _ other _ d left e right _
    simp only [Descriptor.kind, steady d left, steady e right]
    rfl

theorem Uniform.breaks_everywhere {contexts : Set Context} {descriptors : List Descriptor}
    (uniform : Uniform contexts descriptors) {d : Descriptor} (listed : d ∈ descriptors) {check : Check}
    (named : d.check? = some check) {ctx : Context} (here : ctx ∈ contexts) (breaks : d.breaks ctx = true) :
    ∀ other ∈ contexts, d.breaks other = true := by
  intro other there
  have same := uniform.alike other there ctx here d listed d listed ⟨check, named, named⟩
  rw [Descriptor.breaks_congr same rfl]
  exact breaks

/-- Some rule that breaks the build comes first or last among the rules that make its check. -/
def Exposed (descriptors : List Descriptor) (ctx : Context) : Prop :=
  ∃ before d after, descriptors = before ++ d :: after ∧ d.breaks ctx = true ∧
    ((∀ e ∈ before, ¬ d.SameCheck e) ∨ ∀ e ∈ after, ¬ d.SameCheck e)

theorem mem_before {α : Type} {before after rest : List α} {d e : α} (place : e :: rest <:+ before ++ d :: after)
    (later : d :: after <:+ rest) : e ∈ before := by
  obtain ⟨done, whole⟩ := place
  obtain ⟨more, tail⟩ := later
  have front : (done ++ e :: more) ++ d :: after = before ++ d :: after := by
    rw [← whole, ← tail, List.append_assoc, List.cons_append]
  rw [← List.append_cancel_right front]
  simp

namespace Stage

def Placed (descriptors : List Descriptor) : Stage → Prop
  | .waiting _ rest => rest <:+ descriptors
  | .running _ d _ rest => d :: rest <:+ descriptors
  | .ended _ => True

def Holds (check : Check) : Stage → Prop
  | .running _ d answer _ => d.check? = some check ∧ answer = .reserved check.2
  | .waiting _ _ | .ended _ => False

theorem Placed.ahead {descriptors : List Descriptor} {stage : Stage} (placed : stage.Placed descriptors) :
    stage.ahead <:+ descriptors := by
  cases stage with
  | waiting progress rest => exact placed
  | running progress d answer rest => exact (List.suffix_cons d rest).trans placed
  | ended outcome => exact List.nil_suffix

theorem Placed.settle {descriptors rest : List Descriptor} (place : rest <:+ descriptors) (progress : Progress)
    (options : Options) (r : RuleResult) : (progress.settle options r rest).Placed descriptors := by
  unfold Progress.settle
  split
  · trivial
  · exact place

theorem Placed.moved {descriptors : List Descriptor} {options : Options} {ctx : Context} {cache left : Cache}
    {stage next : Stage} (placed : stage.Placed descriptors) (moved : stage.Moved options ctx cache next left) :
    next.Placed descriptors := by
  cases moved with
  | concludes | rests => trivial
  | goesAlone | reserves => exact placed
  | skips | finishes => exact .settle ((List.suffix_cons _ _).trans placed) _ _ _

theorem Moved.ahead {options : Options} (failBuild : options.failBuild = true) {ctx : Context}
    {cache left : Cache} {stage next : Stage} (moved : stage.Moved options ctx cache next left)
    (clean : next.Clean ctx) {d : Descriptor} {after : List Descriptor} (breaks : d.breaks ctx = true)
    (waits : d :: after <:+ stage.ahead) :
    d :: after <:+ next.ahead ∨
      ∃ progress check, stage = .waiting progress (d :: after) ∧ d.check? = some check ∧
        cache.knows check = true := by
  cases moved with
  | concludes | rests => cases List.suffix_nil.1 waits
  | @skips progress e rest check named known =>
    rcases List.suffix_cons_iff.1 waits with here | later
    · obtain ⟨rfl, rfl⟩ := List.cons.inj here
      exact .inr ⟨progress, check, rfl, named, known⟩
    · rw [Progress.settle_calm rfl]
      exact .inl later
  | goesAlone | reserves =>
    rcases List.suffix_cons_iff.1 waits with here | later
    · obtain ⟨rfl, rfl⟩ := List.cons.inj here
      exact absurd (clean.2.symm.trans breaks) Bool.false_ne_true
    · exact .inl later
  | finishes =>
    rw [Progress.settle_calm (clean_settle failBuild clean).2]
    exact .inl waits

theorem Holds.ahead {check : Check} {stage : Stage} (holds : stage.Holds check) {descriptors : List Descriptor}
    (placed : stage.Placed descriptors) {ctx : Context} (clean : stage.Clean ctx) {d : Descriptor}
    {after : List Descriptor} (place : d :: after <:+ descriptors) (named : d.check? = some check)
    (breaks : d.breaks ctx = true) (last : ∀ e ∈ after, ¬ d.SameCheck e) : d :: after <:+ stage.ahead := by
  cases stage with
  | waiting | ended => exact holds.elim
  | running progress e answer rest =>
    have other : d :: after ≠ e :: rest := by
      intro same
      obtain ⟨rfl, rfl⟩ := List.cons.inj same
      exact absurd (clean.2.symm.trans breaks) Bool.false_ne_true
    rcases List.suffix_or_suffix_of_suffix place placed with earlier | later
    · exact (List.suffix_cons_iff.1 earlier).resolve_left other
    · have behind := (List.suffix_cons_iff.1 later).resolve_left other.symm
      exact absurd ⟨check, named, holds.1⟩ (last e (behind.subset List.mem_cons_self))

end Stage

namespace Crew

variable {ι : Type} {options : Options} {modules : ι → Context} {descriptors : List Descriptor}

structure Orderly (modules : ι → Context) (descriptors : List Descriptor) (crew : Crew ι) : Prop where
  placed : ∀ i, (crew.stage i).Placed descriptors
  held : ∀ i, ∀ d ∈ descriptors, ∀ check, d.check? = some check → d.kind (modules i) ≠ .passed →
    crew.cache.knows check = true → ∃ holder, (crew.stage holder).Holds check

def Clean (modules : ι → Context) (crew : Crew ι) : Prop := ∀ i, (crew.stage i).Clean (modules i)

theorem start_orderly (active : options.skip = false) (declared : descriptors ≠ []) :
    (start options descriptors : Crew ι).Orderly modules descriptors := by
  constructor
  · intro i
    rw [start_stage active declared]
    exact List.suffix_refl _
  · intro i d listed check named fails known
    rw [start, Cache.knows_empty] at known
    cases known

variable [DecidableEq ι]

theorem Orderly.moved {crew : Crew ι} (orderly : crew.Orderly modules descriptors)
    (uniform : Uniform (Set.range modules) descriptors) (asks : options.ignoreCache = false) (i : ι) :
    (crew.stage i).Moved options (modules i) crew.cache ((crew.step options modules i).stage i)
      (crew.step options modules i).cache := by
  rw [stage_step_self]
  exact Worker.moved asks (modules i) (crew.worker i) crew.cache fun d member =>
    uniform.hooks d ((orderly.placed i).ahead.subset member)

theorem Orderly.step {crew : Crew ι} (orderly : crew.Orderly modules descriptors)
    (uniform : Uniform (Set.range modules) descriptors) (asks : options.ignoreCache = false) (i : ι) :
    (crew.step options modules i).Orderly modules descriptors := by
  have moved := orderly.moved uniform asks i
  have others : ∀ j, j ≠ i → (crew.step options modules i).stage j = crew.stage j := fun j other =>
    crew.stage_step_other options modules other
  constructor
  · intro j
    by_cases other : j = i
    · subst other
      exact (orderly.placed j).moved moved
    · rw [others j other]
      exact orderly.placed j
  · intro witness d listed check named fails known
    -- An older holder that is not the worker of this step goes on holding the check.
    have keeps : crew.cache.knows check = true → ¬ (crew.stage i).Holds check →
        ∃ holder, ((crew.step options modules i).stage holder).Holds check := by
      intro before idle
      obtain ⟨holder, holds⟩ := orderly.held witness d listed check named fails before
      have other : holder ≠ i := fun same => idle (same ▸ holds)
      exact ⟨holder, by rwa [others holder other]⟩
    have placed := orderly.placed i
    generalize hereStage : crew.stage i = stage at moved keeps placed
    generalize nextStage : (crew.step options modules i).stage i = next at moved
    generalize (crew.step options modules i).cache = left at moved known
    cases moved with
    | concludes | rests | skips | goesAlone => exact keeps known not_false
    | @reserves _ e _ reserved reservedBy fresh =>
      rcases (crew.cache.knows_record fresh check).1 known with rfl | before
      · exact ⟨i, nextStage ▸ ⟨reservedBy, rfl⟩⟩
      · exact keeps before not_false
    | @finishes _ e answer _ =>
      have run : e ∈ descriptors := placed.subset List.mem_cons_self
      split at known
      · rename_i passes
        refine keeps known fun holds => fails ?_
        rw [uniform.alike _ ⟨witness, rfl⟩ _ ⟨i, rfl⟩ d listed e run ⟨check, named, holds.1⟩]
        exact (e.kind_passed_iff _).2 passes
      · refine keeps (e.knows_giveBack known) fun holds => ?_
        obtain ⟨same, rfl⟩ := holds
        rw [Descriptor.giveBack_reserved same] at known
        exact ((crew.cache.knows_release check check).1 known).1 rfl

theorem clean_of_step {crew : Crew ι} (orderly : crew.Orderly modules descriptors)
    (uniform : Uniform (Set.range modules) descriptors) (asks : options.ignoreCache = false)
    (failBuild : options.failBuild = true) {i : ι} (clean : (crew.step options modules i).Clean modules) :
    crew.Clean modules := by
  intro j
  by_cases other : j = i
  · subst other
    exact (orderly.moved uniform asks j).clean failBuild (clean j)
  · rw [← crew.stage_step_other options modules other]
    exact clean j

/-- What holds at the start and survives the steps of clean orderly crews holds after a clean run. -/
theorem run_invariant (uniform : Uniform (Set.range modules) descriptors) (active : options.skip = false)
    (asks : options.ignoreCache = false) (failBuild : options.failBuild = true) (declared : descriptors ≠ [])
    {P : Crew ι → Prop} (begun : P (start options descriptors))
    (kept : ∀ crew i, crew.Orderly modules descriptors → crew.Clean modules →
      (crew.step options modules i).Clean modules → P crew → P (crew.step options modules i))
    (schedule : List ι) (clean : (run options modules schedule (start options descriptors)).Clean modules) :
    P (run options modules schedule (start options descriptors)) := by
  suffices both : (run options modules schedule (start options descriptors)).Orderly modules descriptors ∧
      ((run options modules schedule (start options descriptors)).Clean modules →
        P (run options modules schedule (start options descriptors))) from both.2 clean
  clear clean
  induction schedule using List.reverseRecOn with
  | nil => exact ⟨start_orderly active declared, fun _ => begun⟩
  | append_singleton earlier i ih =>
    obtain ⟨orderly, holds⟩ := ih
    have last : run options modules (earlier ++ [i]) (start options descriptors) =
        (run options modules earlier (start options descriptors)).step options modules i :=
      List.foldl_append
    rw [last]
    refine ⟨orderly.step uniform asks i, fun clean => ?_⟩
    have before := clean_of_step orderly uniform asks failBuild clean
    exact kept _ i orderly before clean (holds before)

structure FirstWaits (modules : ι → Context) (d : Descriptor) (after : List Descriptor) (crew : Crew ι) :
    Prop where
  ahead : ∀ i, d.breaks (modules i) = true → d :: after <:+ (crew.stage i).ahead
  unknown : ∀ check, d.check? = some check → crew.cache.knows check = false

theorem FirstWaits.step (uniform : Uniform (Set.range modules) descriptors)
    (asks : options.ignoreCache = false) (failBuild : options.failBuild = true) {before after : List Descriptor}
    {d : Descriptor} (split : descriptors = before ++ d :: after) {witness : ι}
    (breaks : d.breaks (modules witness) = true) (first : ∀ e ∈ before, ¬ d.SameCheck e) {crew : Crew ι} {i : ι}
    (orderly : crew.Orderly modules descriptors) (clean : (crew.step options modules i).Clean modules)
    (waits : crew.FirstWaits modules d after) : (crew.step options modules i).FirstWaits modules d after := by
  have moved := orderly.moved uniform asks i
  have listed : d ∈ descriptors := by simp [split]
  have aheadNext : ∀ j, d.breaks (modules j) = true →
      d :: after <:+ ((crew.step options modules i).stage j).ahead := by
    intro j breaks
    by_cases other : j = i
    · subst other
      rcases moved.ahead failBuild (clean j) breaks (waits.ahead j breaks) with later | ⟨_, check, _, named, known⟩
      · exact later
      · rw [waits.unknown check named] at known
        cases known
    · rw [crew.stage_step_other options modules other]
      exact waits.ahead j breaks
  refine ⟨aheadNext, ?_⟩
  intro check named
  have unknown := waits.unknown check named
  have breaksHere : d.breaks (modules i) = true :=
    uniform.breaks_everywhere listed named ⟨witness, rfl⟩ breaks _ ⟨i, rfl⟩
  have aheadHere := aheadNext i breaksHere
  have placed := orderly.placed i
  generalize crew.stage i = stage at moved placed
  generalize (crew.step options modules i).stage i = next at moved aheadHere
  generalize (crew.step options modules i).cache = left at moved
  cases moved with
  | concludes | rests | skips | goesAlone => exact unknown
  | finishes =>
    split
    · exact unknown
    · rename_i e answer rest fails
      by_contra known
      exact absurd (unknown.symm.trans (e.knows_giveBack (by simpa using known))) Bool.false_ne_true
  | @reserves progress e rest reserved reservedBy fresh =>
    by_contra known
    rcases (crew.cache.knows_record fresh check).1 (by simpa using known) with rfl | older
    · have earlier : e ∈ before := mem_before (split ▸ placed) aheadHere
      exact first e earlier ⟨check, named, reservedBy⟩
    · exact absurd (unknown.symm.trans older) Bool.false_ne_true

theorem last_waits_step (uniform : Uniform (Set.range modules) descriptors)
    (asks : options.ignoreCache = false) (failBuild : options.failBuild = true) {before after : List Descriptor}
    {d : Descriptor} (split : descriptors = before ++ d :: after) (breaks : ∀ i, d.breaks (modules i) = true)
    (last : ∀ e ∈ after, ¬ d.SameCheck e) {crew : Crew ι} {i : ι} (orderly : crew.Orderly modules descriptors)
    (cleanNow : crew.Clean modules) (clean : (crew.step options modules i).Clean modules)
    (waits : ∃ j, d :: after <:+ (crew.stage j).ahead) :
    ∃ j, d :: after <:+ ((crew.step options modules i).stage j).ahead := by
  obtain ⟨j, waits⟩ := waits
  have listed : d ∈ descriptors := by simp [split]
  by_cases other : j = i
  · subst other
    have moved := orderly.moved uniform asks j
    rcases moved.ahead failBuild (clean j) (breaks j) waits with later | ⟨progress, check, here, named, known⟩
    · exact ⟨j, later⟩
    · have fails := Descriptor.kind_of_breaks (breaks j)
      obtain ⟨holder, holds⟩ := orderly.held j d listed check named fails known
      have different : holder ≠ j := by
        rintro rfl
        rw [here] at holds
        exact holds
      refine ⟨holder, ?_⟩
      rw [crew.stage_step_other options modules different]
      exact holds.ahead (orderly.placed holder) (cleanNow holder) ⟨before, split.symm⟩ named (breaks holder) last
  · refine ⟨j, ?_⟩
    rwa [crew.stage_step_other options modules other]

/-- Where a failing rule is exposed, workers that have all ended have not all ended well. -/
theorem not_clean_of_exposed (uniform : Uniform (Set.range modules) descriptors) (active : options.skip = false)
    (asks : options.ignoreCache = false) (failBuild : options.failBuild = true) {witness : ι}
    (exposed : Exposed descriptors (modules witness)) (schedule : List ι)
    (done : ∀ i, ∃ outcome, (run options modules schedule (start options descriptors)).stage i = .ended outcome) :
    ¬ (run options modules schedule (start options descriptors)).Clean modules := by
  intro clean
  obtain ⟨before, d, after, split, breaks, place⟩ := exposed
  have declared : descriptors ≠ [] := by simp [split]
  have listed : d ∈ descriptors := by simp [split]
  have begun : ∀ i, d :: after <:+ ((start options descriptors : Crew ι).stage i).ahead := by
    intro i
    rw [start_stage active declared]
    exact ⟨before, split.symm⟩
  have nobody : ∀ i, ¬ d :: after <:+ ((run options modules schedule (start options descriptors)).stage i).ahead := by
    intro i waits
    obtain ⟨outcome, ended⟩ := done i
    rw [ended] at waits
    cases List.suffix_nil.1 waits
  have firstCase : (∀ e ∈ before, ¬ d.SameCheck e) → False := by
    intro first
    have waits := run_invariant uniform active asks failBuild declared
      (P := FirstWaits modules d after) ⟨fun i _ => begun i, fun check _ => Cache.knows_empty check⟩
      (fun crew i orderly _ next => FirstWaits.step uniform asks failBuild split breaks first orderly next)
      schedule clean
    exact nobody witness (waits.ahead witness breaks)
  rcases place with first | last
  · exact firstCase first
  · cases named : d.check? with
    | none =>
      refine firstCase fun e _ same => ?_
      obtain ⟨check, some, -⟩ := same
      rw [named] at some
      cases some
    | some check =>
      have everywhere : ∀ i, d.breaks (modules i) = true := fun i =>
        uniform.breaks_everywhere listed named ⟨witness, rfl⟩ breaks _ ⟨i, rfl⟩
      obtain ⟨i, waits⟩ := run_invariant uniform active asks failBuild declared
        (P := fun crew => ∃ j, d :: after <:+ (crew.stage j).ahead) ⟨witness, begun witness⟩
        (fun crew i orderly now next =>
          last_waits_step uniform asks failBuild split everywhere last orderly now next)
        schedule clean
      exact nobody i waits

end Crew

end BuildGate
