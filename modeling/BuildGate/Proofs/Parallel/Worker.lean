import Mathlib.Logic.Function.Basic
import Mathlib.Logic.Relation
import BuildGate.Proofs.Enforcement.Verdict

namespace BuildGate

structure Progress where
  index : Nat
  results : List RuleResult
  failures : List String

inductive Stage where
  | waiting (progress : Progress) (rest : List Descriptor)
  | running (progress : Progress) (d : Descriptor) (answer : Lookup) (rest : List Descriptor)
  | ended (outcome : Except Failure Report)

def Stage.outcome? : Stage → Option (Except Failure Report)
  | .ended outcome => some outcome
  | .waiting _ _ | .running _ _ _ _ => none

theorem Stage.outcome?_eq_some {stage : Stage} {outcome : Except Failure Report} :
    stage.outcome? = some outcome ↔ stage = .ended outcome := by
  cases stage <;> simp [outcome?]

structure Worker where
  notices : List Notice
  stage : Stage

namespace Descriptor

def finish (d : Descriptor) (ctx : Context) (index : Nat) (answer : Lookup) (cache : Cache) : Step :=
  let execution := d.rule.run ctx
  let notices := [.executing index d.name d.subject] ++ execution.notices
  match execution.verdict with
  | .passed => ⟨notices ++ [.passed index d.name], cache, .passed⟩
  | .violation message => ⟨notices, d.giveBack answer cache, .failed message⟩
  | .fatal message =>
    ⟨notices ++ [.brokeOff index d.name], d.giveBack answer cache, .fatallyErrored message⟩

theorem step_hit (d : Descriptor) (options : Options) (ctx : Context) (index : Nat) {cache after : Cache}
    {notices : List Notice} (told : d.lookup options cache = (notices, .hit, after)) :
    d.step options ctx index cache =
      ⟨notices ++ [.alreadyRan index d.name d.implementation], after, .skippedCached⟩ := by
  simp only [step, told, ↓reduceIte]

theorem step_finish (d : Descriptor) (options : Options) (ctx : Context) (index : Nat) {cache after : Cache}
    {notices : List Notice} {answer : Lookup} (told : d.lookup options cache = (notices, answer, after))
    (runs : answer ≠ .hit) :
    d.step options ctx index cache =
      { d.finish ctx index answer after with
        notices := notices ++ (d.finish ctx index answer after).notices } := by
  simp only [step, finish, told, runs, ↓reduceIte]
  cases (d.rule.run ctx).verdict <;> simp only [List.append_assoc]

theorem finish_outcome (d : Descriptor) (ctx : Context) (index : Nat) (answer : Lookup) (cache : Cache) :
    (d.finish ctx index answer cache).outcome = .ofVerdict (d.rule.run ctx).verdict := by
  simp only [finish]
  cases (d.rule.run ctx).verdict <;> rfl

theorem finish_cache (d : Descriptor) (ctx : Context) (index : Nat) (answer : Lookup) (cache : Cache) :
    (d.finish ctx index answer cache).cache =
      if (d.rule.run ctx).verdict = .passed then cache else d.giveBack answer cache := by
  simp only [finish]
  cases (d.rule.run ctx).verdict <;> simp

end Descriptor

def Progress.settle (progress : Progress) (options : Options) (r : RuleResult) (rest : List Descriptor) :
    Stage :=
  if r.endsPass options then .ended (.error (r.failure progress.results))
  else
    .waiting ⟨progress.index + 1, progress.results ++ [r],
      progress.failures ++ Enforcer.deferred options [r]⟩ rest

namespace Worker

def start (options : Options) (descriptors : List Descriptor) : Worker :=
  if options.skip then ⟨[.enforcementSkipped], .ended (.ok .ofSkipped)⟩
  else if descriptors.isEmpty then
    if options.failIfNoRules then ⟨[], .ended (.error .noRules)⟩
    else ⟨[.noRules], .ended (.ok .empty)⟩
  else ⟨[], .waiting ⟨0, [], []⟩ descriptors⟩

def settle (w : Worker) (options : Options) (progress : Progress) (d : Descriptor) (rest : List Descriptor)
    (step : Step) : Worker × Cache :=
  (⟨w.notices ++ (step.notices ++ d.remarks options progress.index step.outcome),
    progress.settle options (d.result progress.index step.outcome) rest⟩, step.cache)

def step (w : Worker) (options : Options) (ctx : Context) (cache : Cache) : Worker × Cache :=
  match w.stage with
  | .waiting progress [] =>
    (⟨w.notices, .ended (Enforcer.conclude progress.results progress.failures)⟩, cache)
  | .waiting progress (d :: rest) =>
    match d.lookup options cache with
    | (notices, .hit, cache) =>
      w.settle options progress d rest
        ⟨notices ++ [.alreadyRan progress.index d.name d.implementation], cache, .skippedCached⟩
    | (notices, answer, cache) => (⟨w.notices ++ notices, .running progress d answer rest⟩, cache)
  | .running progress d answer rest =>
    w.settle options progress d rest (d.finish ctx progress.index answer cache)
  | .ended _ => (w, cache)

def Solo (options : Options) (ctx : Context) : Worker × Cache → Worker × Cache → Prop :=
  Relation.ReflTransGen fun now next => now.1.step options ctx now.2 = next

theorem Solo.refl (options : Options) (ctx : Context) (w : Worker) (cache : Cache) :
    Solo options ctx (w, cache) (w, cache) := Relation.ReflTransGen.refl

theorem Solo.step {options : Options} {ctx : Context} {w : Worker} {cache : Cache} {next : Worker × Cache}
    (moved : w.step options ctx cache = next) : Solo options ctx (w, cache) next :=
  Relation.ReflTransGen.single moved

theorem Solo.trans {options : Options} {ctx : Context} {first second third : Worker × Cache}
    (left : Solo options ctx first second) (right : Solo options ctx second third) :
    Solo options ctx first third := Relation.ReflTransGen.trans left right

theorem solo_rule (options : Options) (ctx : Context) (said : List Notice) (progress : Progress)
    (d : Descriptor) (rest : List Descriptor) (cache : Cache) :
    let v := d.visit options ctx progress.index cache
    Solo options ctx (⟨said, .waiting progress (d :: rest)⟩, cache)
      (⟨said ++ v.notices options, progress.settle options v.result rest⟩, v.step.cache) := by
  intro v
  rcases told : d.lookup options cache with ⟨notices, answer, after⟩
  by_cases hit : answer = .hit
  · subst hit
    have visited : v.step = _ := d.step_hit options ctx progress.index told
    apply Solo.step
    simp only [step, told, settle, Visit.notices, Visit.result, visited]
    rfl
  · have visited : v.step = _ := d.step_finish options ctx progress.index told hit
    have asks : step ⟨said, .waiting progress (d :: rest)⟩ options ctx cache =
        (⟨said ++ notices, .running progress d answer rest⟩, after) := by
      cases answer with
      | hit => exact absurd rfl hit
      | reserved | uncached => simp only [step, told]
    refine (Solo.step asks).trans (Solo.step ?_)
    simp only [step, settle, Visit.notices, Visit.result, visited, List.append_assoc]
    rfl

end Worker

structure Crew (ι : Type) where
  cache : Cache
  worker : ι → Worker

namespace Crew

variable {ι : Type}

def start (options : Options) (descriptors : List Descriptor) : Crew ι :=
  ⟨.empty, fun _ => .start options descriptors⟩

def stage (crew : Crew ι) (i : ι) : Stage := (crew.worker i).stage

theorem start_stage {options : Options} {descriptors : List Descriptor} (active : options.skip = false)
    (declared : descriptors ≠ []) (i : ι) :
    (start options descriptors : Crew ι).stage i = .waiting ⟨0, [], []⟩ descriptors := by
  simp [stage, start, Worker.start, active, declared]

variable [DecidableEq ι]

def step (options : Options) (modules : ι → Context) (crew : Crew ι) (i : ι) : Crew ι :=
  let next := (crew.worker i).step options (modules i) crew.cache
  ⟨next.2, Function.update crew.worker i next.1⟩

def run (options : Options) (modules : ι → Context) (schedule : List ι) (crew : Crew ι) : Crew ι :=
  schedule.foldl (step options modules) crew

def Reaches (options : Options) (modules : ι → Context) (crew next : Crew ι) : Prop :=
  ∃ schedule, run options modules schedule crew = next

theorem Reaches.refl (options : Options) (modules : ι → Context) (crew : Crew ι) :
    Reaches options modules crew crew := ⟨[], rfl⟩

theorem Reaches.trans {options : Options} {modules : ι → Context} {first second third : Crew ι}
    (left : Reaches options modules first second) (right : Reaches options modules second third) :
    Reaches options modules first third := by
  obtain ⟨earlier, rfl⟩ := left
  obtain ⟨later, rfl⟩ := right
  exact ⟨earlier ++ later, List.foldl_append⟩

theorem Reaches.step (options : Options) (modules : ι → Context) (crew : Crew ι) (i : ι) :
    Reaches options modules crew (crew.step options modules i) := ⟨[i], rfl⟩

theorem Reaches.solo {options : Options} {modules : ι → Context} {crew : Crew ι} {i : ι} {w : Worker}
    {cache : Cache} (alone : Worker.Solo options (modules i) (crew.worker i, crew.cache) (w, cache)) :
    Reaches options modules crew ⟨cache, Function.update crew.worker i w⟩ := by
  unfold Worker.Solo at alone
  generalize ends : (w, cache) = last at alone
  induction alone generalizing w cache with
  | refl =>
    obtain ⟨rfl, rfl⟩ := Prod.mk.inj ends
    rw [Function.update_eq_self]
    exact .refl options modules crew
  | tail _ moved ih =>
    refine (ih rfl).trans ⟨[i], ?_⟩
    simp [run, Crew.step, moved, ← ends]

@[simp] theorem stage_step_self (options : Options) (modules : ι → Context) (crew : Crew ι) (i : ι) :
    (crew.step options modules i).stage i =
      ((crew.worker i).step options (modules i) crew.cache).1.stage := by
  simp only [stage, step, Function.update_self]

theorem stage_step_other (options : Options) (modules : ι → Context) (crew : Crew ι) {i j : ι} (other : j ≠ i) :
    (crew.step options modules i).stage j = crew.stage j := by
  simp only [stage, step, Function.update_of_ne other]

end Crew

end BuildGate
