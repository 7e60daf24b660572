import Mathlib.Logic.Function.Basic
import BuildGate.Proofs.Parallel.Stage

namespace BuildGate

inductive Client where
  | idle
  | running (reserved? : Option Check)

def Client.told (implementation : String) : Lookup → Client
  | .hit => .idle
  | .uncached => .running none
  | .reserved id => .running (some (implementation, id))

structure Clientele (ι : Type) where
  cache : Cache
  client : ι → Client

namespace Clientele

variable {ι : Type}

inductive Event (ι : Type) where
  | asked (i : ι) (implementation : String) (rule : Rule) (answer : Lookup)
  | kept (i : ι) (check : Check)
  | released (i : ι) (check : Check)
  | finished (i : ι)

def start : Clientele ι := ⟨.empty, fun _ => .idle⟩

def Holds (s : Clientele ι) (i : ι) (check : Check) : Prop := s.client i = .running (some check)

def Kept (events : List (Event ι)) (check : Check) : Prop := ∃ i, .kept i check ∈ events

theorem kept_append_singleton {past : List (Event ι)} {e : Event ι} {check : Check} :
    Kept (past ++ [e]) check ↔ Kept past check ∨ ∃ i, e = .kept i check := by
  simp only [Kept, List.mem_append, List.mem_singleton, exists_or, eq_comm]

/-- The books on what happened so far: the cache knows what is held and what was kept, and no check is both. -/
structure Accounted (past : List (Event ι)) (s : Clientele ι) : Prop where
  alone : ∀ check i j, s.Holds i check → s.Holds j check → i = j
  known : ∀ check, s.cache.knows check = true ↔ (∃ i, s.Holds i check) ∨ Kept past check
  settled : ∀ check, Kept past check → ∀ j, ¬ s.Holds j check

theorem start_accounted : (start : Clientele ι).Accounted [] where
  alone check i j holds := by cases holds
  known check := by simp [start, Cache.knows_empty, Holds, Kept]
  settled check kept := by simp [Kept] at kept

namespace Accounted

variable {past : List (Event ι)} {s t : Clientele ι} {i : ι} {check : Check}

theorem unheld (accounted : s.Accounted past) (unknown : s.cache.knows check = false) (j : ι) :
    ¬ s.Holds j check := by
  intro holds
  exact Bool.false_ne_true (unknown.symm.trans ((accounted.known check).2 (.inl ⟨j, holds⟩)))

theorem unkept (accounted : s.Accounted past) (unknown : s.cache.knows check = false) :
    ¬ Kept past check := by
  intro kept
  exact Bool.false_ne_true (unknown.symm.trans ((accounted.known check).2 (.inr kept)))

theorem reserve (accounted : s.Accounted past) (unknown : s.cache.knows check = false)
    (held : ∀ j other, t.Holds j other ↔ (j = i ∧ other = check) ∨ s.Holds j other)
    (recorded : t.cache = s.cache.record check.1 check.2 unknown) : t.Accounted past := by
  refine ⟨?_, ?_, ?_⟩
  · intro other j k left right
    rw [held] at left right
    rcases left with ⟨rfl, rfl⟩ | left <;> rcases right with ⟨rfl, same⟩ | right
    · rfl
    · exact absurd right (accounted.unheld unknown k)
    · exact absurd left (same ▸ accounted.unheld unknown j)
    · exact accounted.alone other j k left right
  · intro other
    have one : (∃ j, t.Holds j other) ↔ other = check ∨ ∃ j, s.Holds j other := by
      simp only [held, exists_or, exists_and_right, exists_eq, true_and]
    rw [recorded, Cache.knows_record, accounted.known, one, or_assoc]
  · intro other kept j holds
    rcases (held j other).1 holds with ⟨-, rfl⟩ | holds
    · exact accounted.unkept unknown kept
    · exact accounted.settled other kept j holds

theorem drop_alone (accounted : s.Accounted past) (held : ∀ j other, t.Holds j other ↔ j ≠ i ∧ s.Holds j other)
    (other : Check) (j k : ι) (left : t.Holds j other) (right : t.Holds k other) : j = k :=
  accounted.alone other j k ((held j other).1 left).2 ((held k other).1 right).2

theorem held_elsewhere (accounted : s.Accounted past) (holds : s.Holds i check)
    (held : ∀ j other, t.Holds j other ↔ j ≠ i ∧ s.Holds j other) (other : Check) :
    (∃ j, t.Holds j other) ↔ other ≠ check ∧ ∃ j, s.Holds j other := by
  constructor
  · rintro ⟨j, has⟩
    obtain ⟨apart, has⟩ := (held j other).1 has
    refine ⟨?_, j, has⟩
    rintro rfl
    exact apart (accounted.alone other j i has holds)
  · rintro ⟨apart, j, has⟩
    refine ⟨j, (held j other).2 ⟨?_, has⟩⟩
    rintro rfl
    exact apart (Option.some.inj (Client.running.inj (has.symm.trans holds)))

theorem keep (accounted : s.Accounted past) (holds : s.Holds i check)
    (held : ∀ j other, t.Holds j other ↔ j ≠ i ∧ s.Holds j other) (same : t.cache = s.cache) :
    t.Accounted (past ++ [.kept i check]) := by
  have kept : ∀ other, Kept (past ++ [Event.kept i check]) other ↔ Kept past other ∨ other = check := by
    intro other
    simp only [kept_append_singleton, Event.kept.injEq, exists_and_right, exists_eq', true_and, eq_comm]
  refine ⟨accounted.drop_alone held, ?_, ?_⟩
  · intro other
    rw [same, accounted.known, accounted.held_elsewhere holds held, kept]
    by_cases mine : other = check
    · subst mine
      simp only [ne_eq, not_true_eq_false, false_and, or_true, iff_true]
      exact .inl ⟨i, holds⟩
    · simp only [ne_eq, mine, not_false_eq_true, true_and, or_false]
  · intro other keeper j has
    obtain ⟨apart, -⟩ := (accounted.held_elsewhere holds held other).1 ⟨j, has⟩
    rcases (kept other).1 keeper with keeper | mine
    · exact accounted.settled other keeper j ((held j other).1 has).2
    · exact apart mine

theorem giveBack (accounted : s.Accounted past) (holds : s.Holds i check)
    (held : ∀ j other, t.Holds j other ↔ j ≠ i ∧ s.Holds j other)
    (released : t.cache = s.cache.release check.1 check.2) : t.Accounted past := by
  refine ⟨accounted.drop_alone held, ?_, ?_⟩
  · intro other
    rw [released, Cache.knows_release, accounted.known, accounted.held_elsewhere holds held]
    have apart : Kept past other → other ≠ check := by
      rintro keeper rfl
      exact accounted.settled other keeper i holds
    tauto
  · intro other keeper j has
    exact accounted.settled other keeper j ((held j other).1 has).2

end Accounted

inductive Change (s : Clientele ι) : Event ι → Clientele ι → Prop
  | nothing {e : Event ι} {t : Clientele ι} (unkept : ∀ i check, e ≠ .kept i check)
      (held : ∀ j check, t.Holds j check ↔ s.Holds j check) (known : t.cache = s.cache) : Change s e t
  | reserves {i : ι} {rule : Rule} {check : Check} {t : Clientele ι}
      (named : rule.cacheId = some check.2) (unknown : s.cache.knows check = false)
      (held : ∀ j other, t.Holds j other ↔ (j = i ∧ other = check) ∨ s.Holds j other)
      (known : t.cache = s.cache.record check.1 check.2 unknown) :
      Change s (.asked i check.1 rule (.reserved check.2)) t
  | keeps {i : ι} {check : Check} {t : Clientele ι} (holds : s.Holds i check)
      (held : ∀ j other, t.Holds j other ↔ j ≠ i ∧ s.Holds j other) (known : t.cache = s.cache) :
      Change s (.kept i check) t
  | givesBack {i : ι} {check : Check} {t : Clientele ι} (holds : s.Holds i check)
      (held : ∀ j other, t.Holds j other ↔ j ≠ i ∧ s.Holds j other)
      (known : t.cache = s.cache.release check.1 check.2) : Change s (.released i check) t

theorem Change.accounted {past : List (Event ι)} {s t : Clientele ι} {e : Event ι} (change : s.Change e t)
    (accounted : s.Accounted past) : t.Accounted (past ++ [e]) := by
  -- Only what is kept is entered in the books.
  have unmarked : (∀ i check, e ≠ .kept i check) → t.Accounted past → t.Accounted (past ++ [e]) := by
    intro unkept books
    have same : ∀ check, Kept (past ++ [e]) check ↔ Kept past check := by
      intro check
      rw [kept_append_singleton]
      simp only [unkept, exists_false, or_false]
    exact ⟨books.alone, fun check => by rw [books.known, same],
      fun check kept => books.settled check ((same check).1 kept)⟩
  cases change with
  | nothing unkept held same =>
    refine unmarked unkept ⟨?_, ?_, ?_⟩
    · simpa only [held] using accounted.alone
    · simpa only [held, same] using accounted.known
    · simpa only [held] using accounted.settled
  | reserves named unknown held recorded =>
    exact unmarked (by simp) (accounted.reserve unknown held recorded)
  | keeps holds held same => exact accounted.keep holds held same
  | givesBack holds held released => exact unmarked (by simp) (accounted.giveBack holds held released)

variable [DecidableEq ι]

inductive Step (s : Clientele ι) : Event ι → Clientele ι → Prop
  | ask {i : ι} {implementation : String} {rule : Rule} {notices : List Notice} {answer : Lookup} {after : Cache}
      (idle : s.client i = .idle) (told : s.cache.lookup implementation rule = (notices, answer, after)) :
      Step s (.asked i implementation rule answer)
        ⟨after, Function.update s.client i (.told implementation answer)⟩
  | keep {i : ι} {check : Check} (holds : s.Holds i check) :
      Step s (.kept i check) ⟨s.cache, Function.update s.client i .idle⟩
  | giveBack {i : ι} {check : Check} (holds : s.Holds i check) :
      Step s (.released i check) ⟨s.cache.release check.1 check.2, Function.update s.client i .idle⟩
  | finish {i : ι} (runs : s.client i = .running none) :
      Step s (.finished i) ⟨s.cache, Function.update s.client i .idle⟩

inductive Run : Clientele ι → List (Event ι) → Clientele ι → Prop
  | nil {s : Clientele ι} : Run s [] s
  | cons {s t u : Clientele ι} {e : Event ι} {later : List (Event ι)} (first : s.Step e t)
      (rest : Run t later u) : Run s (e :: later) u

theorem Run.append {s t u : Clientele ι} {earlier later : List (Event ι)} (left : Run s earlier t)
    (right : Run t later u) : Run s (earlier ++ later) u := by
  induction left with
  | nil => exact right
  | cons first _ ih => exact .cons first (ih right)

theorem Run.moment {s u : Clientele ι} {events : List (Event ι)} (run : Run s events u) {e : Event ι}
    (member : e ∈ events) :
    ∃ earlier later t next, events = earlier ++ e :: later ∧ Run s earlier t ∧ t.Step e next := by
  induction run with
  | nil => cases member
  | @cons s t u first events step rest ih =>
    rcases List.mem_cons.1 member with rfl | member
    · exact ⟨[], events, s, t, rfl, .nil, step⟩
    · obtain ⟨earlier, later, before, next, split, reached, moved⟩ := ih member
      exact ⟨first :: earlier, later, before, next, by rw [split, List.cons_append], .cons step reached, moved⟩

theorem holds_update {s : Clientele ι} {cache : Cache} {i j : ι} {state : Client} {check : Check} :
    (Clientele.mk cache (Function.update s.client i state)).Holds j check ↔
      (j = i ∧ state = .running (some check)) ∨ (j ≠ i ∧ s.Holds j check) := by
  by_cases same : j = i
  · subst same
    simp [Holds]
  · simp [Holds, same]

theorem Step.change {s t : Clientele ι} {e : Event ι} (step : s.Step e t) : s.Change e t := by
  cases step with
  | keep holds => exact .keeps holds (fun j other => by simp [holds_update]) rfl
  | giveBack holds => exact .givesBack holds (fun j other => by simp [holds_update]) rfl
  | @finish i runs =>
    refine .nothing (by simp) (fun j check => ?_) rfl
    rw [holds_update]
    by_cases same : j = i
    · simp [same, Holds, runs]
    · simp [same]
  | @ask i implementation rule notices answer after idle told =>
    have answered := s.cache.lookup_answered implementation rule
    rw [told] at answered
    have unheld : ∀ check, ¬ s.Holds i check := by simp [Holds, idle]
    have quiet : ∀ state : Client, (∀ check, state ≠ .running (some check)) → ∀ j check,
        (Clientele.mk s.cache (Function.update s.client i state)).Holds j check ↔ s.Holds j check := by
      intro state free j check
      rw [holds_update]
      by_cases same : j = i
      · simp [same, free check, unheld check]
      · simp [same]
    cases answered with
    | apart | accepted | rejected => exact .nothing (by simp) (quiet _ (by simp [Client.told])) rfl
    | @fresh id named takesPart unknown =>
      refine @Change.reserves ι s i rule (implementation, id) _ named unknown (fun j other => ?_) rfl
      rw [holds_update]
      by_cases same : j = i
      · simp [same, Client.told, unheld other, eq_comm]
      · simp [same]

theorem Accounted.run {past events : List (Event ι)} {s t : Clientele ι} (accounted : s.Accounted past)
    (run : Run s events t) : t.Accounted (past ++ events) := by
  induction run generalizing past with
  | nil => simpa using accounted
  | cons first _ ih =>
    have next := ih (first.change.accounted accounted)
    rwa [List.append_assoc, List.singleton_append] at next

theorem Step.reserved_unknown {s t : Clientele ι} {i : ι} {implementation id : String} {rule : Rule}
    (step : s.Step (.asked i implementation rule (.reserved id)) t) :
    s.cache.knows (implementation, id) = false := by
  cases step with
  | ask idle told =>
    have answered := s.cache.lookup_answered implementation rule
    rw [told] at answered
    cases answered with
    | fresh named takesPart unknown => exact unknown

theorem Step.holder {s t : Clientele ι} {i : ι} {check : Check}
    (step : s.Step (.kept i check) t ∨ s.Step (.released i check) t) : s.Holds i check := by
  rcases step with step | step
  · cases step with
    | keep holds => exact holds
  · cases step with
    | giveBack holds => exact holds

theorem Accounted.lasting {past later : List (Event ι)} {s t : Clientele ι} (accounted : s.Accounted past)
    {check : Check} (kept : Kept past check) (run : Run s later t) :
    t.cache.knows check = true ∧ ∀ i, ¬ t.Holds i check := by
  have books := accounted.run run
  have still : Kept (past ++ later) check := kept.imp fun i member => List.mem_append_left _ member
  exact ⟨(books.known check).2 (.inr still), books.settled check still⟩

theorem Accounted.kept_stays {past later : List (Event ι)} {s t : Clientele ι} (accounted : s.Accounted past)
    {check : Check} (kept : Kept past check) (run : Run s later t) :
    t.cache.knows check = true ∧ (∀ i, .released i check ∉ later) ∧ (∀ i, .kept i check ∉ later) ∧
      ∀ i rule, .asked i check.1 rule (.reserved check.2) ∉ later := by
  have met : ∀ e ∈ later, ∃ u next, Step u e next ∧ u.cache.knows check = true ∧ ∀ i, ¬ u.Holds i check := by
    intro e member
    obtain ⟨_, _, u, next, -, reached, moved⟩ := run.moment member
    exact ⟨u, next, moved, accounted.lasting kept reached⟩
  refine ⟨(accounted.lasting kept run).1, ?_, ?_, ?_⟩
  · intro i member
    obtain ⟨_, _, moved, -, unheld⟩ := met _ member
    exact unheld i (Step.holder (.inr moved))
  · intro i member
    obtain ⟨_, _, moved, -, unheld⟩ := met _ member
    exact unheld i (Step.holder (.inl moved))
  · intro i rule member
    obtain ⟨_, _, moved, known, -⟩ := met _ member
    exact Bool.false_ne_true (moved.reserved_unknown.symm.trans known)

def Event.answerTo? (check : Check) : Event ι → Option Lookup
  | .asked _ implementation rule answer =>
    if implementation = check.1 ∧ rule.cacheId = some check.2 then some answer else none
  | .kept _ _ | .released _ _ | .finished _ => none

def answers (check : Check) (events : List (Event ι)) : List Lookup := events.filterMap (·.answerTo? check)

/-- A rule with this check is asked for only if it takes part in caching and believes the earlier run. -/
def Event.Trusting (check : Check) : Event ι → Prop
  | .asked _ implementation rule _ =>
    implementation = check.1 → rule.cacheId = some check.2 →
      rule.isCacheable = true ∧ rule.accepts ⟨check.1, check.2⟩ = true
  | .kept _ _ | .released _ _ | .finished _ => True

theorem Step.answer {s t : Clientele ι} {e : Event ι} (step : s.Step e t) {check : Check}
    (trusting : e.Trusting check) {answer : Lookup} (answered : e.answerTo? check = some answer) :
    answer = (if s.cache.knows check = true then .hit else .reserved check.2) ∧ t.cache.knows check = true := by
  cases step with
  | keep | giveBack | finish => cases answered
  | @ask i implementation rule notices told after idle asked =>
    simp only [Event.answerTo?, Option.ite_none_right_eq_some, Option.some.injEq] at answered
    obtain ⟨⟨rfl, named⟩, rfl⟩ := answered
    obtain ⟨takesPart, accepts⟩ := trusting rfl named
    have reply := s.cache.lookup_answered check.1 rule
    rw [asked] at reply
    cases reply with
    | apart out => simp [named, takesPart] at out
    | rejected other _ _ rejects =>
      cases named.symm.trans other
      simp [accepts] at rejects
    | accepted other _ known _ =>
      cases named.symm.trans other
      exact ⟨(if_pos known).symm, known⟩
    | fresh other _ unknown =>
      cases named.symm.trans other
      have fresh : ¬ s.cache.knows check = true := by simp [Cache.knows, unknown]
      exact ⟨(if_neg fresh).symm, (s.cache.knows_record unknown check).2 (.inl rfl)⟩

theorem Step.knows {s t : Clientele ι} {e : Event ι} (step : s.Step e t) {check : Check}
    (unreleased : ∀ i, e ≠ .released i check) (unasked : e.answerTo? check = none) :
    t.cache.knows check = s.cache.knows check := by
  rw [Bool.eq_iff_iff]
  cases step.change with
  | nothing unkept held same | keeps holds held same => rw [same]
  | @reserves i rule other _ named unknown held recorded =>
    rw [recorded, Cache.knows_record, or_iff_right]
    rintro rfl
    simp [Event.answerTo?, named] at unasked
  | @givesBack i other _ holds held released =>
    rw [released, Cache.knows_release, and_iff_right]
    rintro rfl
    exact unreleased i rfl

theorem answers_known {later : List (Event ι)} {s t : Clientele ι} (run : Run s later t) {check : Check}
    (unreleased : ∀ i, .released i check ∉ later) (trusting : ∀ e ∈ later, e.Trusting check)
    (known : s.cache.knows check = true) : ∀ answer ∈ answers check later, answer = .hit := by
  induction run with
  | nil => simp [answers]
  | @cons s t u e later step rest ih =>
    have calm : ∀ i, e ≠ .released i check := fun i same => unreleased i (same ▸ List.mem_cons_self)
    have further := ih (fun i member => unreleased i (List.mem_cons_of_mem _ member))
      (fun f member => trusting f (List.mem_cons_of_mem _ member))
    cases answered : e.answerTo? check with
    | none =>
      rw [answers, List.filterMap_cons_none answered]
      exact further ((step.knows calm answered).trans known)
    | some answer =>
      obtain ⟨told, after⟩ := step.answer (trusting e List.mem_cons_self) answered
      rw [answers, List.filterMap_cons_some answered]
      intro other member
      rcases List.mem_cons.1 member with rfl | member
      · rw [told, if_pos known]
      · exact further after other member

theorem answers_unknown {later : List (Event ι)} {s t : Clientele ι} (run : Run s later t) {check : Check}
    (unreleased : ∀ i, .released i check ∉ later) (trusting : ∀ e ∈ later, e.Trusting check)
    (unknown : s.cache.knows check = false) (n : Nat) (asked : (answers check later).length = n + 1) :
    answers check later = .reserved check.2 :: List.replicate n .hit := by
  induction run with
  | nil => cases asked
  | @cons s t u e later step rest ih =>
    have calm : ∀ i, e ≠ .released i check := fun i same => unreleased i (same ▸ List.mem_cons_self)
    have calmRest : ∀ i, .released i check ∉ later := fun i member => unreleased i (List.mem_cons_of_mem _ member)
    have trustingRest : ∀ f ∈ later, f.Trusting check := fun f member => trusting f (List.mem_cons_of_mem _ member)
    cases answered : e.answerTo? check with
    | none =>
      rw [answers, List.filterMap_cons_none answered] at asked ⊢
      exact ih calmRest trustingRest ((step.knows calm answered).trans unknown) asked
    | some answer =>
      obtain ⟨told, after⟩ := step.answer (trusting e List.mem_cons_self) answered
      rw [answers, List.filterMap_cons_some answered, List.length_cons, Nat.succ_inj] at asked
      rw [answers, List.filterMap_cons_some answered, told, unknown]
      congr 1
      exact List.eq_replicate_iff.2 ⟨asked, answers_known rest calmRest trustingRest after⟩

/-- However the clients take turns, a check has one owner at most, the cache knows the checks that are held
    and those that were kept, and a check that was kept stays. -/
theorem reserved_once {events : List (Event ι)} {s : Clientele ι} (run : Run start events s) :
    (∀ check i j, s.Holds i check → s.Holds j check → i = j) ∧
      (∀ check, s.cache.knows check = true ↔ (∃ i, s.Holds i check) ∨ Kept events check) ∧
      (∀ implementation, (s.cache.cacheIds implementation).Nodup) ∧
      (∀ check, Kept events check → ∀ later t, Run s later t →
        t.cache.knows check = true ∧ (∀ i, .released i check ∉ later) ∧ (∀ i, .kept i check ∉ later) ∧
          ∀ i rule, .asked i check.1 rule (.reserved check.2) ∉ later) ∧
      ∀ check later t, Run s later t → s.cache.knows check = false → (∀ i, .released i check ∉ later) →
        (∀ e ∈ later, e.Trusting check) → ∀ n, (answers check later).length = n + 1 →
          answers check later = .reserved check.2 :: List.replicate n .hit := by
  have accounted : s.Accounted events := start_accounted.run run
  refine ⟨accounted.alone, accounted.known, s.cache.nodup_cacheIds, ?_, ?_⟩
  · intro check kept later t further
    exact accounted.kept_stays kept further
  · intro check later t further unknown unreleased trusting n asked
    exact answers_unknown further unreleased trusting unknown n asked

/-- A rule that doubts every earlier run is run again beside its check, and takes nothing away when it fails. -/
theorem reserved_once_doubted :
    let check : Check := ("tests::Rule", "x")
    let rule : Rule := .steady .passed (some "x")
    let doubtful : Rule := { Rule.steady (.violation "broken") (some "x") with accepts := fun _ => false }
    let events : List (Event Bool) := [
      .asked false "tests::Rule" rule (.reserved "x"), .asked true "tests::Rule" doubtful .uncached,
      .kept false check, .finished true]
    ∃ s, Run start events s ∧ s.cache.knows check = true ∧ ∀ later t, Run s later t →
      t.cache.knows check = true ∧ (∀ i, .released i check ∉ later) ∧ (∀ i, .kept i check ∉ later) ∧
        ∀ i rule, .asked i check.1 rule (.reserved check.2) ∉ later := by
  intro check rule doubtful events
  have run : ∃ s, Run start events s :=
    ⟨_, .cons (.ask rfl rfl) (.cons (.ask rfl rfl) (.cons (.keep rfl) (.cons (.finish rfl) .nil)))⟩
  obtain ⟨s, run⟩ := run
  have kept : Kept events check := ⟨false, by simp [events]⟩
  obtain ⟨-, known, -, stays, -⟩ := reserved_once run
  exact ⟨s, run, (known check).2 (.inr kept), stays check kept⟩

end Clientele

def Stage.client : Stage → Client
  | .running _ d (.reserved id) _ => .running (some (d.implementation, id))
  | .running _ _ .hit _ | .running _ _ .uncached _ => .running none
  | .waiting _ _ | .ended _ => .idle

def Crew.clients {ι : Type} (crew : Crew ι) : Clientele ι := ⟨crew.cache, fun i => (crew.stage i).client⟩

theorem Progress.settle_client (progress : Progress) (options : Options) (r : RuleResult)
    (rest : List Descriptor) : (progress.settle options r rest).client = .idle := by
  unfold settle
  split <;> rfl

theorem Clientele.run_worker {ι : Type} [DecidableEq ι] {options : Options} (asks : options.ignoreCache = false)
    (ctx : Context) (s : Clientele ι) (i : ι) (w : Worker) (here : s.client i = w.stage.client) :
    let next := w.step options ctx s.cache
    ∃ events, Run s events ⟨next.2, Function.update s.client i next.1.stage.client⟩ := by
  intro next
  obtain ⟨said, stage⟩ := w
  have unmoved : Function.update s.client i stage.client = s.client := by
    simp only at here
    rw [← here, Function.update_eq_self]
  have once : ∀ {e : Event ι} {t : Clientele ι}, s.Step e t → ∃ events, Run s events t :=
    fun {e} {_} step => ⟨[e], .cons step .nil⟩
  cases stage with
  | ended outcome =>
    refine ⟨[], ?_⟩
    simp only [next, Worker.step, unmoved]
    exact .nil
  | waiting progress rest =>
    cases rest with
    | nil =>
      refine ⟨[], ?_⟩
      simp only [next, Worker.step, Stage.client] at unmoved ⊢
      rw [unmoved]
      exact .nil
    | cons d rest =>
      rcases told : s.cache.lookup d.implementation d.rule with ⟨notices, answer, after⟩
      have asked := once (.ask here told)
      cases answer with
      | hit =>
        simpa [next, Worker.step, Descriptor.lookup, asks, told, Worker.settle, Progress.settle_client,
          Client.told] using asked
      | uncached | reserved id =>
        simpa [next, Worker.step, Descriptor.lookup, asks, told, Stage.client, Client.told] using asked
  | running progress d answer rest =>
    simp only [next, Worker.step, Worker.settle, Progress.settle_client, Descriptor.finish_cache]
    cases answer with
    | hit | uncached =>
      simp only [Descriptor.giveBack, ite_self]
      exact once (.finish here)
    | reserved id =>
      split
      · exact once (.keep here)
      · exact once (.giveBack here)

/-- Passes side by side are clients of their cache. -/
theorem Crew.run_clients {ι : Type} [DecidableEq ι] {options : Options} (asks : options.ignoreCache = false)
    (modules : ι → Context) (schedule : List ι) (crew : Crew ι) :
    ∃ events, Clientele.Run crew.clients events (crew.run options modules schedule).clients := by
  induction schedule generalizing crew with
  | nil => exact ⟨[], .nil⟩
  | cons i rest ih =>
    obtain ⟨later, further⟩ := ih (crew.step options modules i)
    obtain ⟨now, moved⟩ := Clientele.run_worker asks (modules i) crew.clients i (crew.worker i) rfl
    have next : (crew.step options modules i).clients =
        ⟨(crew.step options modules i).cache, Function.update crew.clients.client i
          ((crew.worker i).step options (modules i) crew.cache).1.stage.client⟩ := by
      simp only [clients, Clientele.mk.injEq, true_and]
      funext j
      by_cases same : j = i
      · subst same
        rw [Function.update_self, stage_step_self]
      · rw [Function.update_of_ne same, stage_step_other options modules crew same]
    rw [next] at further
    exact ⟨now ++ later, moved.append further⟩

theorem Crew.start_clients {ι : Type} (options : Options) (descriptors : List Descriptor) :
    (start options descriptors : Crew ι).clients = Clientele.start := by
  have idle : (Worker.start options descriptors).stage.client = .idle := by
    unfold Worker.start
    split
    · rfl
    · split
      · split <;> rfl
      · rfl
  simp only [clients, stage, start, idle, Clientele.start]

theorem Crew.run_accounted {ι : Type} [DecidableEq ι] {options : Options} (asks : options.ignoreCache = false)
    (modules : ι → Context) (schedule : List ι) (descriptors : List Descriptor) :
    ∃ events, (run options modules schedule (start options descriptors)).clients.Accounted events := by
  obtain ⟨events, went⟩ := run_clients asks modules schedule (start options descriptors)
  rw [start_clients] at went
  exact ⟨events, Clientele.start_accounted.run went⟩

end BuildGate
