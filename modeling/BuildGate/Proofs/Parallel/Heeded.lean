import Mathlib.Data.Finite.Prod
import BuildGate.Proofs.Parallel.Phase

namespace BuildGate

namespace Crew

variable (options : Options) {ctx : Context} {descriptors : List Descriptor}

/-- The rules are gone through once, and the checks that have had their turn are in another phase. -/
theorem sweep (before after : Phase) (turned : List Descriptor → List Descriptor → Check → Bool)
    (still : ∀ done d rest check, d.check? ≠ some check →
      turned (done ++ [d]) rest check = turned done (d :: rest) check)
    (grows : ∀ done d rest check, turned done (d :: rest) check = true → turned (done ++ [d]) rest check = true)
    (turn : ∀ done d rest, descriptors = done ++ d :: rest → ∀ k : Critical descriptors ctx,
      d.check? = some k.1 → turned done (d :: rest) k.1 = false → ∀ crew : Pairs descriptors ctx,
      crew.Standing (fun j => if turned done (d :: rest) j.1 then after else before) →
      turned (done ++ [d]) rest k.1 = true → ∃ next, Reaches options (fun _ => ctx) crew next ∧
        next.Standing (Function.update (fun j => if turned done (d :: rest) j.1 then after else before) k after))
    {crew : Pairs descriptors ctx}
    (begun : crew.Standing fun j => if turned [] descriptors j.1 then after else before) :
    ∃ next, Reaches options (fun _ => ctx) crew next ∧
      next.Standing fun j => if turned descriptors [] j.1 then after else before := by
  suffices upTo : ∀ done rest, descriptors = done ++ rest → ∃ next,
      Reaches options (fun _ => ctx) crew next ∧
        next.Standing fun j => if turned done rest j.1 then after else before from
    upTo descriptors [] (List.append_nil descriptors).symm
  intro done
  induction done using List.reverseRecOn with
  | nil =>
    rintro rest rfl
    exact ⟨crew, .refl _ _ crew, begun⟩
  | append_singleton done d ih =>
    intro rest split
    rw [List.append_assoc, List.singleton_append] at split
    obtain ⟨middle, reached, standing⟩ := ih (d :: rest) split
    by_cases new : ∃ k : Critical descriptors ctx, d.check? = some k.1 ∧ turned done (d :: rest) k.1 = false ∧
        turned (done ++ [d]) rest k.1 = true
    · obtain ⟨k, named, waits, now⟩ := new
      obtain ⟨next, further, standingNext⟩ := turn done d rest split k named waits middle standing now
      refine ⟨next, reached.trans further, ?_⟩
      convert standingNext using 1
      funext j
      by_cases same : j = k
      · rw [same, Function.update_self, if_pos now]
      · have other : d.check? ≠ some j.1 := by
          rw [named]
          exact fun equal => same (Subtype.ext (Option.some.inj equal).symm)
        rw [Function.update_of_ne same, still done d rest j.1 other]
    · refine ⟨middle, reached, ?_⟩
      convert standing using 1
      funext j
      have same : turned (done ++ [d]) rest j.1 = turned done (d :: rest) j.1 := by
        by_cases named : d.check? = some j.1
        · cases earlier : turned done (d :: rest) j.1 with
          | true => exact grows done d rest j.1 earlier
          | false => exact Bool.eq_false_iff.2 fun now => new ⟨j, named, earlier, now⟩
        · exact still done d rest j.1 named
      rw [same]

theorem start_standing (ctx : Context) (active : options.skip = false) (declared : descriptors ≠ []) :
    (start options descriptors : Pairs descriptors ctx).Standing fun _ => .idle where
  known k := Cache.knows_empty k.1
  opens _ := ⟨_, start_stage active declared _, rfl⟩
  closes _ := ⟨_, start_stage active declared _, rfl⟩

variable {options}

/-- The order is that of the first rules with each check: the checks declared before are held by then. -/
theorem open_all (uniform : Uniform {ctx} descriptors) (asks : options.ignoreCache = false)
    (hidden : ¬ Exposed descriptors ctx) {crew : Pairs descriptors ctx} (idle : crew.Standing fun _ => .idle) :
    ∃ next, Reaches options (fun _ => ctx) crew next ∧ next.Standing fun _ => .opened := by
  have begun : crew.Standing fun k => if declares [] k.1 then .opened else .idle := by simpa using idle
  obtain ⟨next, reached, opened⟩ := sweep options .idle .opened (fun done _ check => declares done check)
    (fun done d _ => declares_other done d) (fun done d _ => declares_grows done d) (by
      intro done d rest split k named waits crew standing _
      refine standing.open uniform asks hidden split named waits ?_ fun j earlier => ?_
      · rw [waits, if_neg Bool.false_ne_true]
      · rw [earlier, if_pos rfl]
        rfl) begun
  exact ⟨next, reached, by simpa only [declares_critical, ↓reduceIte] using opened⟩

theorem handOver_all (uniform : Uniform {ctx} descriptors) (asks : options.ignoreCache = false)
    (hidden : ¬ Exposed descriptors ctx) {crew : Pairs descriptors ctx} (opened : crew.Standing fun _ => .opened) :
    ∃ next, Reaches options (fun _ => ctx) crew next ∧ next.Standing fun _ => .handedOver := by
  have begun : crew.Standing fun k => if declares [] k.1 then .handedOver else .opened := by simpa using opened
  obtain ⟨next, reached, handed⟩ := sweep options .opened .handedOver (fun done _ check => declares done check)
    (fun done d _ => declares_other done d) (fun done d _ => declares_grows done d) (by
      intro done d rest split k named waits crew standing _
      refine standing.handOver uniform asks hidden ?_ fun j => ?_
      · rw [waits, if_neg Bool.false_ne_true]
      · by_cases earlier : declares done j.1 = true <;> simp [earlier, Phase.isHeld]) begun
  exact ⟨next, reached, by simpa only [declares_critical, ↓reduceIte] using handed⟩

theorem close_all (uniform : Uniform {ctx} descriptors) (asks : options.ignoreCache = false)
    (hidden : ¬ Exposed descriptors ctx) {crew : Pairs descriptors ctx}
    (handed : crew.Standing fun _ => .handedOver) :
    ∃ next, Reaches options (fun _ => ctx) crew next ∧ next.Standing fun _ => .closed := by
  have begun : crew.Standing fun k => if !declares descriptors k.1 then .closed else .handedOver := by
    simpa only [declares_critical, Bool.not_true, Bool.false_eq_true, ↓reduceIte] using handed
  obtain ⟨next, reached, closed⟩ := sweep options .handedOver .closed (fun _ rest check => !declares rest check)
    (fun _ d rest check other => by simp [other])
    (fun _ d rest check gone => by
      simp only [declares_cons, Bool.not_or, Bool.and_eq_true] at gone
      exact gone.2)
    (by
      intro done d rest split k named waits crew standing _
      refine standing.close uniform asks hidden ?_ fun part suffix last j declared => ?_
      · rw [waits, if_neg Bool.false_ne_true]
      · have here : d :: rest <:+ descriptors := ⟨done, split.symm⟩
        have ahead : declares (d :: rest) j.1 = true := by
          rcases List.suffix_or_suffix_of_suffix suffix here with inside | around
          · obtain ⟨e, member, shared⟩ := declares_iff.1 declared
            exact declares_iff.2 ⟨e, inside.subset member, shared⟩
          · rw [declares_iff.2 ⟨d, around.subset List.mem_cons_self, named⟩] at last
            cases last
        rw [ahead, Bool.not_true, if_neg Bool.false_ne_true]
        rfl) begun
  exact ⟨next, reached, by simpa using closed⟩

theorem exists_escape (uniform : Uniform {ctx} descriptors) (active : options.skip = false)
    (asks : options.ignoreCache = false) (declared : descriptors ≠ []) (hidden : ¬ Exposed descriptors ctx) :
    ∃ schedule, ∀ i, ((run options (fun _ => ctx) schedule
      (start options descriptors : Pairs descriptors ctx)).stage i).EndedWell := by
  have idle := start_standing options ctx active declared
  obtain ⟨first, opening, opened⟩ := open_all uniform asks hidden idle
  obtain ⟨second, handing, handed⟩ := handOver_all uniform asks hidden opened
  obtain ⟨third, closing, closed⟩ := close_all uniform asks hidden handed
  obtain ⟨schedule, ends⟩ := opening.trans (handing.trans closing)
  refine ⟨schedule, ?_⟩
  rintro ⟨k, role⟩
  rw [ends]
  cases role with
  | false => exact closed.opens k
  | true => exact closed.closes k

end Crew

/-- However many passes there are and however they interleave, once all have ended, a failing `error` rule
    has made one of them end with an error. -/
def Heeds (options : Options) (contexts : Set Context) (descriptors : List Descriptor) : Prop :=
  ∀ (ι : Type) [Finite ι] [DecidableEq ι] (modules : ι → Context), (∀ i, modules i ∈ contexts) →
    ∀ schedule : List ι,
      let crew := Crew.run options modules schedule (Crew.start options descriptors)
      (∀ i, ∃ outcome, crew.stage i = .ended outcome) →
      (∃ i, ∃ d ∈ descriptors, d.level = .error ∧ (d.rule.run (modules i)).verdict ≠ .passed) →
      ∃ i failure, crew.stage i = .ended (.error failure)

section Heeds

variable {options : Options} {contexts : Set Context} {descriptors : List Descriptor}

theorem heeds_of_exposed (active : options.skip = false) (failBuild : options.failBuild = true)
    (asks : options.ignoreCache = false) (uniform : Uniform contexts descriptors)
    (exposes : ∀ ctx ∈ contexts, (∃ d ∈ descriptors, d.level = .error ∧ (d.rule.run ctx).verdict ≠ .passed) →
      Exposed descriptors ctx) : Heeds options contexts descriptors := by
  intro ι finite decidable modules listed schedule crew done failing
  obtain ⟨i, failing⟩ := failing
  by_contra calm
  have range : Set.range modules ⊆ contexts := by
    rintro _ ⟨j, rfl⟩
    exact listed j
  have exposed := exposes (modules i) (listed i) failing
  refine Crew.not_clean_of_exposed (uniform.mono range) active asks failBuild exposed schedule done fun j => ?_
  obtain ⟨outcome, ended⟩ := done j
  rw [ended]
  cases outcome with
  | ok report => rfl
  | error failure => exact absurd ⟨j, failure, ended⟩ calm

theorem exposed_of_heeds (active : options.skip = false) (asks : options.ignoreCache = false)
    (uniform : Uniform contexts descriptors) (heeds : Heeds options contexts descriptors) {ctx : Context}
    (listed : ctx ∈ contexts)
    (failing : ∃ d ∈ descriptors, d.level = .error ∧ (d.rule.run ctx).verdict ≠ .passed) :
    Exposed descriptors ctx := by
  by_contra hidden
  obtain ⟨d, member, level, fails⟩ := failing
  have only := uniform.mono (Set.singleton_subset_iff.2 listed)
  obtain ⟨k, -⟩ := exists_critical hidden member (Descriptor.breaks_of_error level fails)
  obtain ⟨schedule, well⟩ := Crew.exists_escape only active asks (List.ne_nil_of_mem member) hidden
  have done : ∀ i, ∃ outcome, (Crew.run options (fun _ => ctx) schedule
      (Crew.start options descriptors : Crew.Pairs descriptors ctx)).stage i = .ended outcome := by
    intro i
    obtain ⟨report, ended⟩ := well i
    exact ⟨.ok report, ended⟩
  obtain ⟨i, failure, broken⟩ := heeds _ (fun _ => ctx) (fun _ => listed) schedule done
    ⟨Crew.opener k, d, member, level, fails⟩
  obtain ⟨report, ended⟩ := well i
  cases broken.symm.trans ended

/-- No failure is lost if and only if each module with a failing `error` rule exposes a failing rule. -/
theorem heeds_iff_exposed (active : options.skip = false) (failBuild : options.failBuild = true)
    (asks : options.ignoreCache = false) (uniform : Uniform contexts descriptors) :
    Heeds options contexts descriptors ↔
      ∀ ctx ∈ contexts, (∃ d ∈ descriptors, d.level = .error ∧ (d.rule.run ctx).verdict ≠ .passed) →
        Exposed descriptors ctx := by
  constructor
  · intro heeds ctx listed failing
    exact exposed_of_heeds active asks uniform heeds listed failing
  · intro exposes
    exact heeds_of_exposed active failBuild asks uniform exposes

end Heeds

theorem heeds_iff_exposed_advice :
    let ctx := Context.new Host.bare Context.defaultBase
    let rules : List Descriptor := [
      ⟨"advice", "tests::Rule", .steady (.violation "broken") (some "x"), .warn⟩,
      ⟨"check", "tests::Rule", .steady (.violation "broken") (some "x"), .error⟩]
    Options.default.skip = false ∧ Options.default.failBuild = true ∧ Options.default.ignoreCache = false ∧
      Uniform {ctx} rules ∧ Heeds .default {ctx} rules := by
  intro ctx rules
  have steady : ∀ d ∈ rules, d.rule = .steady (.violation "broken") (some "x") := by simp [rules]
  have uniform : Uniform {ctx} rules := .of_steady steady {ctx}
  have exposed : Exposed rules ctx := ⟨[rules[0]], rules[1], [], rfl, rfl, .inr (by simp)⟩
  refine ⟨rfl, rfl, rfl, uniform, (heeds_iff_exposed rfl rfl rfl uniform).2 ?_⟩
  rintro other rfl _
  exact exposed

/-- Two passes: each skips the `error` rule while the other runs the check for one of the `warn` rules. -/
theorem not_heeds_between_warnings :
    let ctx := Context.new Host.bare Context.defaultBase
    let rules : List Descriptor := [
      ⟨"advice", "tests::Rule", .steady (.violation "broken") (some "x"), .warn⟩,
      ⟨"check", "tests::Rule", .steady (.violation "broken") (some "x"), .error⟩,
      ⟨"reminder", "tests::Rule", .steady (.violation "broken") (some "x"), .warn⟩]
    let crew := Crew.run .default (fun _ : Fin 2 => ctx) [0, 1, 1, 0, 1, 0, 1, 0, 0, 0, 1] (.start .default rules)
    let first : Report := ⟨false, [
      ⟨0, "advice", "tests::Rule", .warn, .failed "broken"⟩,
      ⟨1, "check", "tests::Rule", .error, .skippedCached⟩,
      ⟨2, "reminder", "tests::Rule", .warn, .failed "broken"⟩]⟩
    let second : Report := ⟨false, [
      ⟨0, "advice", "tests::Rule", .warn, .skippedCached⟩,
      ⟨1, "check", "tests::Rule", .error, .skippedCached⟩,
      ⟨2, "reminder", "tests::Rule", .warn, .failed "broken"⟩]⟩
    Uniform {ctx} rules ∧ crew.stage 0 = .ended (.ok first) ∧ crew.stage 1 = .ended (.ok second) ∧
      ¬ Heeds .default {ctx} rules := by
  intro ctx rules crew first second
  have steady : ∀ d ∈ rules, d.rule = .steady (.violation "broken") (some "x") := by simp [rules]
  have one : crew.stage 0 = .ended (.ok first) := Stage.outcome?_eq_some.1 (by decide)
  have two : crew.stage 1 = .ended (.ok second) := Stage.outcome?_eq_some.1 (by decide)
  refine ⟨.of_steady steady {ctx}, one, two, fun heeds => ?_⟩
  have well : ∀ i, ∃ report, crew.stage i = .ended (.ok report) := by
    intro i
    match i with
    | 0 => exact ⟨first, one⟩
    | 1 => exact ⟨second, two⟩
  have done : ∀ i, ∃ outcome, crew.stage i = .ended outcome := by
    intro i
    obtain ⟨report, ended⟩ := well i
    exact ⟨.ok report, ended⟩
  have failing : ∃ d ∈ rules, d.level = .error ∧ (d.rule.run ctx).verdict ≠ .passed :=
    ⟨rules[1], by simp [rules], rfl, by decide⟩
  obtain ⟨i, failure, broken⟩ := heeds (Fin 2) (fun _ => ctx) (fun _ => rfl) _ done ⟨0, failing⟩
  obtain ⟨report, ended⟩ := well i
  cases broken.symm.trans ended

end BuildGate
