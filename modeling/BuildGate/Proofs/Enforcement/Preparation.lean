import BuildGate.Enforcement.Execute
import BuildGate.Proofs.Binding.Parameters

namespace BuildGate

namespace Registry

/-- A rule is looked for among the components first. -/
inductive Finds (registry : Registry) (name : String) (implementation : Option String) : Registration → Prop
  | component {found : Registration}
      (listed : registry.components.get? (RuleName.canonical name) = some found) :
      Finds registry name implementation found
  | type {found : Registration} (unlisted : registry.components.get? (RuleName.canonical name) = none)
      (listed : registry.types.get? (typeReference name implementation) = some found) :
      Finds registry name implementation found

def Lacks (registry : Registry) (name : String) (implementation : Option String) : Prop :=
  registry.components.get? (RuleName.canonical name) = none ∧
    registry.types.get? (typeReference name implementation) = none

variable {registry : Registry} {name : String} {implementation : Option String}

theorem finds_or_lacks (registry : Registry) (name : String) (implementation : Option String) :
    (∃ found, registry.Finds name implementation found) ∨ registry.Lacks name implementation := by
  cases component : registry.components.get? (RuleName.canonical name) with
  | some found => exact .inl ⟨found, .component component⟩
  | none =>
    cases type : registry.types.get? (typeReference name implementation) with
    | some found => exact .inl ⟨found, .type component type⟩
    | none => exact .inr ⟨component, type⟩

theorem Finds.create_eq {found : Registration} (finds : registry.Finds name implementation found) :
    (registry.create name implementation).2 =
      .ok ⟨RuleName.canonical name, found.implementation, found.blueprint⟩ := by
  unfold create
  cases finds with
  | component listed => simp only [listed]
  | type unlisted listed => simp only [unlisted, listed]

theorem Lacks.create_eq (lacks : registry.Lacks name implementation) :
    (registry.create name implementation).2 =
      .error (.creation (RuleName.canonical name) (typeReference name implementation)) := by
  obtain ⟨component, type⟩ := lacks
  simp only [create, component, type]

end Registry

namespace Enforcer

/-- What comes of a declaration on its own: a rule that is ready to run, or the first fault on the way. -/
inductive Prepares (enforcer : Enforcer) (d : Declaration) : Except Failure Descriptor → Prop
  | ready {found : Registration} {level : Severity} {params : Params} {notices : List Notice} {rule : Rule}
      (finds : enforcer.registry.Finds d.name d.implementation found)
      (leveled : Binder.Leveled enforcer.evaluate d.config (.ok level))
      (bound : Binder.Bound enforcer.evaluate d.config params)
      (configured : found.blueprint.configure (some ⟨RuleName.canonical d.name, level⟩) params =
        (notices, .ok rule)) :
      Prepares enforcer d (.ok ⟨RuleName.canonical d.name, found.implementation, rule, level⟩)
  | unknown (lacks : enforcer.registry.Lacks d.name d.implementation) :
      Prepares enforcer d
        (.error (.creation (RuleName.canonical d.name) (Registry.typeReference d.name d.implementation)))
  | unleveled {found : Registration} {e : BindError}
      (finds : enforcer.registry.Finds d.name d.implementation found)
      (leveled : Binder.Leveled enforcer.evaluate d.config (.error e)) :
      Prepares enforcer d (.error (.configuration (RuleName.canonical d.name) e.message))
  | unbound {found : Registration} {level : Severity} {e : BindError}
      (finds : enforcer.registry.Finds d.name d.implementation found)
      (leveled : Binder.Leveled enforcer.evaluate d.config (.ok level))
      (unbound : Binder.Unbound enforcer.evaluate d.config e) :
      Prepares enforcer d (.error (.configuration (RuleName.canonical d.name) e.message))
  | refused {found : Registration} {level : Severity} {params : Params} {notices : List Notice} {e : BindError}
      (finds : enforcer.registry.Finds d.name d.implementation found)
      (leveled : Binder.Leveled enforcer.evaluate d.config (.ok level))
      (bound : Binder.Bound enforcer.evaluate d.config params)
      (configured : found.blueprint.configure (some ⟨RuleName.canonical d.name, level⟩) params =
        (notices, .error e)) :
      Prepares enforcer d (.error (.configuration (RuleName.canonical d.name) e.message))

def prepared (enforcer : Enforcer) (d : Declaration) : Except Failure Descriptor := (enforcer.prepareOne d).2

theorem prepared_eq (enforcer : Enforcer) (d : Declaration) :
    enforcer.prepared d =
      match (enforcer.registry.create d.name d.implementation).2 with
      | .error e => .error e
      | .ok resolved =>
        match Binder.level enforcer.evaluate resolved.name d.config with
        | .error e => .error e
        | .ok level =>
          (Binder.bind enforcer.evaluate resolved.name (some ⟨resolved.name, level⟩) resolved.blueprint
            d.config).2.map fun rule => ⟨resolved.name, resolved.implementation, rule, level⟩ := by
  unfold prepared prepareOne
  obtain ⟨notices, _ | resolved⟩ := enforcer.registry.create d.name d.implementation
  · rfl
  · dsimp only
    cases Binder.level enforcer.evaluate resolved.name d.config <;> rfl

theorem Prepares.prepared_eq {enforcer : Enforcer} {d : Declaration} {result : Except Failure Descriptor}
    (prepares : enforcer.Prepares d result) : enforcer.prepared d = result := by
  rw [Enforcer.prepared_eq]
  cases prepares with
  | unknown lacks => simp only [lacks.create_eq]
  | unleveled finds leveled =>
    simp only [finds.create_eq, leveled.level_eq, Except.mapError, Binder.failed]
  | unbound finds leveled unbound =>
    have read := Binder.parameters_error_iff.2 unbound
    simp only [finds.create_eq, leveled.level_eq, Except.mapError, Binder.bind, read, Except.map, Binder.failed]
  | ready finds leveled bound configured =>
    have read := Binder.parameters_ok_iff.2 bound
    simp only [finds.create_eq, leveled.level_eq, Except.mapError, Binder.bind, read, configured, Except.map]
  | refused finds leveled bound configured =>
    have read := Binder.parameters_ok_iff.2 bound
    simp only [finds.create_eq, leveled.level_eq, Except.mapError, Binder.bind, read, configured, Except.map,
      Binder.failed]

theorem exists_prepares (enforcer : Enforcer) (d : Declaration) : ∃ result, enforcer.Prepares d result := by
  rcases enforcer.registry.finds_or_lacks d.name d.implementation with ⟨found, finds⟩ | lacks
  · obtain ⟨_ | level, leveled⟩ := Binder.exists_leveled enforcer.evaluate d.config
    · exact ⟨_, .unleveled finds leveled⟩
    · cases read : Binder.parameters enforcer.evaluate d.config with
      | error e => exact ⟨_, .unbound finds leveled (Binder.parameters_error_iff.1 read)⟩
      | ok params =>
        have bound := Binder.parameters_ok_iff.1 read
        cases configured : found.blueprint.configure (some ⟨RuleName.canonical d.name, level⟩) params with
        | mk notices result =>
          cases result with
          | error e => exact ⟨_, .refused finds leveled bound configured⟩
          | ok rule => exact ⟨_, .ready finds leveled bound configured⟩
  · exact ⟨_, .unknown lacks⟩

theorem prepared_iff (enforcer : Enforcer) (d : Declaration) (result : Except Failure Descriptor) :
    enforcer.prepared d = result ↔ enforcer.Prepares d result := by
  constructor
  · rintro rfl
    obtain ⟨result, prepares⟩ := enforcer.exists_prepares d
    rwa [prepares.prepared_eq]
  · exact Prepares.prepared_eq

def considered (enforcer : Enforcer) (declarations : List Declaration) : List Declaration :=
  declarations.filter fun d =>
    ∀ name ∈ enforcer.options.skipRules, RuleName.canonical name ≠ RuleName.canonical d.name

theorem leavesOut_iff (enforcer : Enforcer) (d : Declaration) :
    enforcer.options.leavesOut d = true ↔
      ¬ ∀ name ∈ enforcer.options.skipRules, RuleName.canonical name ≠ RuleName.canonical d.name := by
  simp [Options.leavesOut]

theorem considered_cons (enforcer : Enforcer) (d : Declaration) (rest : List Declaration) :
    enforcer.considered (d :: rest) =
      if enforcer.options.leavesOut d then enforcer.considered rest else d :: enforcer.considered rest := by
  by_cases out : enforcer.options.leavesOut d = true
  · have skipped := (enforcer.leavesOut_iff d).1 out
    simp only [considered, List.filter_cons, skipped, out, decide_false, Bool.false_eq_true, ↓reduceIte]
  · have kept := not_not.1 (mt (enforcer.leavesOut_iff d).2 out)
    rw [considered, List.filter_cons_of_pos (by simpa using kept), if_neg out]
    rfl

theorem prepare_out {enforcer : Enforcer} {d : Declaration} (out : enforcer.options.leavesOut d = true)
    (rest : List Declaration) :
    enforcer.prepare (d :: rest) =
      (.leftOut (RuleName.canonical d.name) :: (enforcer.prepare rest).1, (enforcer.prepare rest).2) := by
  rw [prepare, if_pos out]

theorem prepare_ok {enforcer : Enforcer} {d : Declaration} {descriptor : Descriptor}
    (kept : ¬ enforcer.options.leavesOut d = true) (ready : enforcer.prepared d = .ok descriptor)
    (rest : List Declaration) :
    enforcer.prepare (d :: rest) =
      ((enforcer.prepareOne d).1 ++ (enforcer.prepare rest).1,
        (enforcer.prepare rest).2.map (descriptor :: ·)) := by
  rw [prepare, if_neg kept]
  unfold prepared at ready
  generalize enforcer.prepareOne d = one at ready ⊢
  obtain ⟨notices, _⟩ := one
  cases ready
  rfl

theorem prepare_error {enforcer : Enforcer} {d : Declaration} {failure : Failure}
    (kept : ¬ enforcer.options.leavesOut d = true) (fails : enforcer.prepared d = .error failure)
    (rest : List Declaration) :
    enforcer.prepare (d :: rest) = ((enforcer.prepareOne d).1, .error failure) := by
  rw [prepare, if_neg kept]
  unfold prepared at fails
  generalize enforcer.prepareOne d = one at fails ⊢
  obtain ⟨notices, _⟩ := one
  cases fails
  rfl

theorem prepare_eq_mapM (enforcer : Enforcer) (declarations : List Declaration) :
    (enforcer.prepare declarations).2 =
      (enforcer.considered declarations).mapM enforcer.prepared := by
  induction declarations with
  | nil => rfl
  | cons d rest ih =>
    rw [considered_cons]
    by_cases out : enforcer.options.leavesOut d = true
    · rw [prepare_out out, if_pos out, ih]
    · rw [if_neg out]
      cases ready : enforcer.prepared d with
      | error e => rw [prepare_error out ready, mapM_cons_error _ ready]
      | ok descriptor => rw [prepare_ok out ready, mapM_cons_ok _ ready, ih]

end Enforcer

end BuildGate
