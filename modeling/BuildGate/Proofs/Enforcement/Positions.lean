import BuildGate.Proofs.Enforcement.Readiness
import BuildGate.Proofs.Enforcement.Session
import BuildGate.Proofs.Sequence.Kept

namespace BuildGate

def Pass.report? (pass : Pass) : Option Report :=
  match pass.outcome with
  | .ok report | .error (.fatal _ _ _ report) => some report
  | .error _ => none

/-- The outcome tells of a rule by its result, or by the text about its violation. -/
inductive Pass.Tells (pass : Pass) (r : RuleResult) : Prop
  | result {report : Report} (given : pass.report? = some report) (member : r ∈ report.results)
  | violation {failure : Failure} {text : String} (ended : pass.outcome = .error failure)
      (policy : failure.isPolicy = true) (breach : r.breach? = some text) (member : text ∈ failure.messages)

structure Pass.Recounts (pass : Pass) (results : List RuleResult) : Prop where
  report : ∀ report, pass.report? = some report → report.results = results
  fatal : ∀ index implementation message report,
    pass.outcome = .error (.fatal index implementation message report) →
      ∃ r ∈ results, r.index = index ∧ r.outcome = .fatallyErrored message
  violations : ∀ failure, pass.outcome = .error failure → failure.isPolicy = true →
    ∀ text ∈ failure.messages, ∃ r ∈ results, r.breach? = some text

theorem Adjudicated.recounts {options : Options} {results reached : List RuleResult} {pass : Pass}
    (judged : Adjudicated options results reached pass.outcome) : pass.Recounts reached := by
  obtain ⟨notices, cache, outcome⟩ := pass
  cases judged with
  | @fatal before after r message calm broken =>
    refine ⟨?_, ?_, ?_⟩
    · rintro report given
      obtain rfl := Option.some.inj given
      rfl
    · rintro index implementation text report ended
      cases ended
      exact ⟨r, by simp, rfl, broken⟩
    · rintro failure ended policy
      cases ended
      cases policy
  | @failFast before after r text calm breaks fast breach =>
    refine ⟨by rintro report ⟨⟩, by rintro index implementation text report ⟨⟩, ?_⟩
    rintro failure ended - other member
    cases ended
    rw [List.mem_singleton.1 member]
    exact ⟨r, by simp, breach⟩
  | aggregate calm breaks violated =>
    refine ⟨by rintro report ⟨⟩, by rintro index implementation text report ⟨⟩, ?_⟩
    rintro failure ended - text member
    cases ended
    exact List.mem_filterMap.1 member
  | success calm tolerated =>
    refine ⟨?_, by rintro index implementation text report ⟨⟩, by rintro failure ⟨⟩⟩
    rintro report given
    obtain rfl := Option.some.inj given
    rfl

namespace Enforcer

theorem reached_isPrefixOf (options : Options) (walk : List Visit) : reached options walk <+: walk := by
  induction walk with
  | nil => exact List.prefix_rfl
  | cons v rest ih =>
    rw [reached]
    split
    · exact List.prefix_append [v] rest
    · exact List.cons_prefix_cons.2 ⟨rfl, ih⟩

theorem visits_isPrefixOf (options : Options) (ctx : Context) (cache : Cache) (descriptors : List Descriptor) :
    visits options ctx cache descriptors <+: trail options ctx 0 cache descriptors := by
  unfold visits
  split
  · exact List.nil_prefix
  · exact reached_isPrefixOf options _

theorem getElem?_visits {options : Options} {ctx : Context} {cache : Cache} {descriptors : List Descriptor} {k : Nat}
    {v : Visit} (visited : (visits options ctx cache descriptors)[k]? = some v) :
    v.index = k ∧ descriptors[k]? = some v.descriptor ∧
      (v.step.outcome = .skippedCached ∨ v.step.outcome = .ofVerdict (v.descriptor.rule.run ctx).verdict) := by
  have onTrail : (trail options ctx 0 cache descriptors)[k]? = some v := by
    obtain ⟨more, whole⟩ := visits_isPrefixOf options ctx cache descriptors
    rw [← whole, List.getElem?_append_left (List.getElem?_eq_some_iff.1 visited).1, visited]
  have place := congrArg (·[k]?) (trail_zipIdx options ctx 0 cache descriptors)
  simp only [List.getElem?_map, onTrail, Option.map_some, List.getElem?_zipIdx, Nat.zero_add] at place
  obtain ⟨d, declared, same⟩ := Option.map_eq_some_iff.1 place.symm
  obtain ⟨rfl, rfl⟩ := Prod.mk.inj same
  refine ⟨rfl, declared, ?_⟩
  obtain ⟨before, after, split⟩ := List.append_of_mem (List.mem_of_getElem? onTrail)
  rw [trail_visit split]
  simp only [Descriptor.visit, Descriptor.step_outcome]
  split
  · exact .inl rfl
  · exact .inr rfl

section

variable (enforcer : Enforcer) (ctx : Context) (cache : Cache) (declarations : List Declaration)
  (descriptors : List Descriptor)

def keeps (d : Declaration) : Bool := !enforcer.options.leavesOut d

def placed : List (Declaration × Nat) := declarations.zipIdx.filter fun entry => enforcer.keeps entry.1

/-- The results of the rules that a run gets to, with the positions of their declarations. -/
def traced : List (Nat × RuleResult) :=
  ((enforcer.placed declarations).map Prod.snd).zip
    ((visits enforcer.options ctx cache descriptors).map Visit.result)

/-- The result is what the rule declared at this position comes to. -/
inductive Stems (position : Nat) (r : RuleResult) : Prop
  | of {d : Declaration} {descriptor : Descriptor} (declared : declarations[position]? = some d)
      (counts : enforcer.keeps d = true) (ready : enforcer.Prepares d (.ok descriptor))
      (named : r = descriptor.result r.index r.outcome)
      (came : r.outcome = .skippedCached ∨ r.outcome = .ofVerdict (descriptor.rule.run ctx).verdict)

/-- The run goes by the positions of the declarations: in what it tells of rules, in a fatal failure, and when its
    report is asked for the rule of a declaration. -/
structure Positioned : Prop where
  told : ∀ position r, (position, r) ∈ enforcer.traced ctx cache declarations descriptors →
    (enforcer.run ctx cache declarations).Tells r → r.index = position
  fatal : ∀ index implementation message report,
    (enforcer.run ctx cache declarations).outcome = .error (.fatal index implementation message report) →
      ∃ r, (index, r) ∈ enforcer.traced ctx cache declarations descriptors ∧ r.outcome = .fatallyErrored message
  found : ∀ report, (enforcer.run ctx cache declarations).report? = some report →
    ∀ position, report.result? position = (enforcer.traced ctx cache declarations descriptors).lookup position

end

section

variable {enforcer : Enforcer} {ctx : Context} {cache : Cache} {declarations : List Declaration}
  {descriptors : List Descriptor} {position : Nat} {r : RuleResult}

theorem considered_eq_placed (enforcer : Enforcer) (declarations : List Declaration) :
    enforcer.considered declarations = (enforcer.placed declarations).map Prod.fst := by
  have same : enforcer.considered declarations = declarations.filter enforcer.keeps := by
    refine List.filter_congr fun d _ => ?_
    rw [Bool.eq_iff_iff, decide_eq_true_iff, ← not_iff_not, ← leavesOut_iff]
    simp only [keeps, Bool.not_eq_true', Bool.not_eq_false]
  conv_lhs => rw [same, ← List.zipIdx_map_fst 0 declarations]
  exact List.filter_map

theorem ready_iff :
    (enforcer.prepare declarations).2 = .ok descriptors ↔
      List.Forall₂ (fun d descriptor => enforcer.Prepares d (.ok descriptor))
        ((enforcer.placed declarations).map Prod.fst) descriptors := by
  simp only [prepare_eq_mapM, mapM_ok_iff, considered_eq_placed, prepared_iff]

theorem traced_entry (ready : (enforcer.prepare declarations).2 = .ok descriptors)
    (member : (position, r) ∈ enforcer.traced ctx cache declarations descriptors) :
    enforcer.Stems ctx declarations position r ∧ r.index = (declarations.take position).countP enforcer.keeps := by
  obtain ⟨k, entry⟩ := List.mem_iff_getElem?.1 member
  obtain ⟨place, visited⟩ := List.getElem?_zip_eq_some.1 entry
  simp only [List.getElem?_map, Option.map_eq_some_iff] at place visited
  obtain ⟨⟨d, i⟩, here, rfl⟩ := place
  obtain ⟨v, visited, rfl⟩ := visited
  obtain ⟨-, declared, counts, rank⟩ := getElem?_filter_zipIdx here
  obtain ⟨index, descriptor, came⟩ := getElem?_visits visited
  have pair : (d, v.descriptor) ∈ ((enforcer.placed declarations).map Prod.fst).zip descriptors := by
    refine List.mem_iff_getElem?.2 ⟨k, List.getElem?_zip_eq_some.2 ⟨?_, descriptor⟩⟩
    rw [List.getElem?_map, here]
    rfl
  have prepares := (List.forall₂_iff_zip.1 (ready_iff.1 ready)).2 pair
  exact ⟨.of declared counts prepares rfl came, index.trans rank.symm⟩

theorem traced_results (ready : (enforcer.prepare declarations).2 = .ok descriptors) :
    (enforcer.traced ctx cache declarations descriptors).map Prod.snd =
      (visits enforcer.options ctx cache descriptors).map Visit.result := by
  have sameLength := (ready_iff.1 ready).length_eq
  have reachedLength := (visits_isPrefixOf enforcer.options ctx cache descriptors).length_le
  have trailLength := congrArg List.length (trail_zipIdx enforcer.options ctx 0 cache descriptors)
  refine List.map_snd_zip ?_
  simp only [List.length_map, List.length_zipIdx] at sameLength trailLength ⊢
  omega

theorem traced_positions (enforcer : Enforcer) (ctx : Context) (cache : Cache) (declarations : List Declaration)
    (descriptors : List Descriptor) :
    (enforcer.traced ctx cache declarations descriptors).map Prod.fst <+:
      (enforcer.placed declarations).map Prod.snd := by
  unfold traced
  rw [List.zip_eq_zip_take_min, List.map_fst_zip (by simp)]
  exact List.take_prefix _ _

theorem execute_nil_recounts (options : Options) (active : options.skip = false) (ctx : Context) (cache : Cache) :
    (execute options ctx cache []).Recounts [] := by
  cases failIfNoRules : options.failIfNoRules with
  | true =>
    have ended : execute options ctx cache [] = ⟨[], cache, .error .noRules⟩ := by
      simp [execute, active, failIfNoRules]
    rw [ended]
    exact ⟨by rintro report ⟨⟩, by rintro index implementation message report ⟨⟩,
      by rintro failure ⟨⟩ policy; cases policy⟩
  | false =>
    have ended : execute options ctx cache [] = ⟨[.noRules], cache, .ok .empty⟩ := by
      simp [execute, active, failIfNoRules]
    rw [ended]
    exact ⟨by rintro report ⟨⟩; rfl, by rintro index implementation message report ⟨⟩, by rintro failure ⟨⟩⟩

theorem run_recounts (active : enforcer.options.skip = false)
    (ready : (enforcer.prepare declarations).2 = .ok descriptors) :
    (enforcer.run ctx cache declarations).Recounts
      ((enforcer.traced ctx cache declarations descriptors).map Prod.snd) := by
  rw [traced_results ready, run_of_ok active ready]
  have walked : visits enforcer.options ctx cache descriptors =
      reached enforcer.options (trail enforcer.options ctx 0 cache descriptors) := by
    rw [visits, active]
    rfl
  rw [walked]
  by_cases none : descriptors = []
  · obtain ⟨report, fatal, violations⟩ := execute_nil_recounts enforcer.options active ctx cache
    rw [none]
    exact ⟨report, fatal, violations⟩
  · exact Adjudicated.recounts (execute_judged enforcer.options ctx cache active none)

theorem find?_eq_lookup {entries : List (Nat × RuleResult)}
    (same : ∀ position r, (position, r) ∈ entries → r.index = position) (position : Nat) :
    (entries.map Prod.snd).find? (·.index == position) = entries.lookup position := by
  induction entries with
  | nil => rfl
  | cons entry rest ih =>
    obtain ⟨i, r⟩ := entry
    have here : r.index = i := same i r List.mem_cons_self
    have later := ih fun position r member => same position r (List.mem_cons_of_mem _ member)
    rw [List.map_cons, List.find?_cons, List.lookup_cons, here, later, Bool.beq_comm]

theorem positioned_of_told (active : enforcer.options.skip = false)
    (ready : (enforcer.prepare declarations).2 = .ok descriptors)
    (told : ∀ position r, (position, r) ∈ enforcer.traced ctx cache declarations descriptors →
      (enforcer.run ctx cache declarations).Tells r → r.index = position) :
    enforcer.Positioned ctx cache declarations descriptors := by
  have recounts : (enforcer.run ctx cache declarations).Recounts _ := run_recounts active ready
  refine ⟨told, ?_, ?_⟩
  · intro index implementation message report ended
    obtain ⟨r, among, rfl, broken⟩ := recounts.fatal _ _ _ _ ended
    obtain ⟨⟨position, r⟩, member, rfl⟩ := List.mem_map.1 among
    have given : (enforcer.run ctx cache declarations).report? = some report := by
      rw [Pass.report?, ended]
    have inReport : r ∈ report.results := by
      rw [recounts.report report given]
      exact among
    rw [told position r member (.result given inReport)]
    exact ⟨r, member, broken⟩
  · intro report given position
    have results := recounts.report report given
    rw [Report.result?, results]
    refine find?_eq_lookup (fun position r member => told position r member (.result given ?_)) position
    rw [results]
    exact List.mem_map_of_mem member

/-- A rule goes by the number of the declarations in front of its own that count; so a run goes by positions exactly
    where no declaration in front of a rule that it tells of is left out. -/
theorem positioned_iff_none_left_out_ahead (active : enforcer.options.skip = false)
    (ready : (enforcer.prepare declarations).2 = .ok descriptors) (ctx : Context) (cache : Cache) :
    let traced := enforcer.traced ctx cache declarations descriptors
    let pass := enforcer.run ctx cache declarations
    traced.map Prod.fst <+: (enforcer.placed declarations).map Prod.snd ∧
      pass.Recounts (traced.map Prod.snd) ∧
      (∀ position r, (position, r) ∈ traced → enforcer.Stems ctx declarations position r ∧
        r.index = (declarations.take position).countP enforcer.keeps) ∧
      (enforcer.Positioned ctx cache declarations descriptors ↔
        ∀ position r, (position, r) ∈ traced → pass.Tells r →
          ∀ d ∈ declarations.take position, enforcer.keeps d = true) := by
  intro traced pass
  have rank : ∀ position r, (position, r) ∈ traced →
      (r.index = position ↔ ∀ d ∈ declarations.take position, enforcer.keeps d = true) := by
    intro position r member
    obtain ⟨⟨declared, -, -, -, -⟩, index⟩ := traced_entry ready member
    have inRange := (List.getElem?_eq_some_iff.1 declared).1
    have whole : (declarations.take position).length = position := List.length_take_of_le inRange.le
    rw [index, ← List.countP_eq_length, whole]
  refine ⟨traced_positions enforcer ctx cache declarations descriptors, run_recounts active ready,
    fun position r member => traced_entry ready member, ?_, ?_⟩
  · intro positioned position r member tells
    exact (rank position r member).1 (positioned.told position r member tells)
  · intro none
    refine positioned_of_told active ready fun position r member tells => ?_
    exact (rank position r member).2 (none position r member tells)

theorem positioned_iff_none_left_out_ahead_last :
    let enforcer : Enforcer :=
      ⟨Registry.discover.2, fun _ => .error "no value", { Options.default with skipRules := ["AlwaysPass"] }⟩
    let ctx := Context.new ⟨⟨"/", fun _ => none⟩, ∅⟩ Context.defaultBase
    let declared : List Declaration := [.new "alwaysFail", .new "alwaysPass"]
    enforcer.options.skip = false ∧ ∃ descriptors, (enforcer.prepare declared).2 = .ok descriptors ∧
      enforcer.Positioned ctx .empty declared descriptors := by
  intro enforcer ctx declared
  have active : enforcer.options.skip = false := rfl
  obtain ⟨descriptors, ready⟩ : ∃ descriptors, (enforcer.prepare declared).2 = .ok descriptors := ⟨_, rfl⟩
  refine ⟨active, descriptors, ready, ?_⟩
  obtain ⟨front, -, -, positioned⟩ := positioned_iff_none_left_out_ahead active ready ctx .empty
  refine positioned.2 fun position r member _ d ahead => ?_
  have among : position ∈ (enforcer.placed declared).map Prod.snd :=
    front.subset (List.mem_map_of_mem member)
  have first : (enforcer.placed declared).map Prod.snd = [0] := by decide
  rw [first, List.mem_singleton] at among
  rw [among] at ahead
  cases ahead

/-- The rule declared behind one that is left out fails under the position of that one. -/
theorem not_positioned_behind_left_out :
    let enforcer : Enforcer :=
      ⟨Registry.discover.2, fun _ => .error "no value", { Options.default with skipRules := ["alwaysPass"] }⟩
    let ctx := Context.new ⟨⟨"/", fun _ => none⟩, ∅⟩ Context.defaultBase
    let declared : List Declaration := [.new "alwaysPass", .new "alwaysFail"]
    ∃ descriptors, (enforcer.prepare declared).2 = .ok descriptors ∧
      (enforcer.run ctx .empty declared).outcome =
        .error (.aggregate ["Rule 0: enforcer_rules::AlwaysFail failed with message:\nAlways fails!"]) ∧
      ¬ enforcer.Positioned ctx .empty declared descriptors := by
  intro enforcer ctx declared
  have ended : (enforcer.run ctx .empty declared).outcome =
      .error (.aggregate ["Rule 0: enforcer_rules::AlwaysFail failed with message:\nAlways fails!"]) := by
    decide
  refine ⟨_, rfl, ended, fun positioned => ?_⟩
  let r : RuleResult := ⟨0, "alwaysFail", "enforcer_rules::AlwaysFail", .error, .failed "Always fails!"⟩
  have text : r.breach? = some "Rule 0: enforcer_rules::AlwaysFail failed with message:\nAlways fails!" := by decide
  have told := positioned.told 1 r List.mem_cons_self (.violation ended rfl text List.mem_cons_self)
  cases told

end

end Enforcer

end BuildGate
