import BuildGate.Binding.Binder
import BuildGate.Proofs.Dict.Lookup
import BuildGate.Proofs.Sequence.FirstFault

namespace BuildGate

def resolveField (evaluate : Evaluator) (field : String × Value) : Except BindError (String × Value) :=
  (resolve evaluate field.2).map (field.1, ·)

theorem resolveField_ok_iff (evaluate : Evaluator) (field resolved : String × Value) :
    resolveField evaluate field = .ok resolved ↔
      resolved.1 = field.1 ∧ resolve evaluate field.2 = .ok resolved.2 := by
  obtain ⟨key, v⟩ := resolved
  unfold resolveField
  cases resolve evaluate field.2 <;> simp [Except.map, eq_comm]

theorem resolveField_error_iff (evaluate : Evaluator) (field : String × Value) (e : BindError) :
    resolveField evaluate field = .error e ↔ resolve evaluate field.2 = .error e := by
  unfold resolveField
  cases resolve evaluate field.2 <;> simp [Except.map]

theorem resolveFields_eq (evaluate : Evaluator) (fields : List (String × Value)) :
    resolveFields evaluate fields = fields.mapM (resolveField evaluate) := by
  induction fields with
  | nil => rfl
  | cons field rest ih =>
    rw [resolveFields]
    cases first : resolve evaluate field.2 with
    | error e =>
      have fails := (resolveField_error_iff evaluate field e).2 first
      rw [mapM_cons_error _ fails]
    | ok v =>
      have value : resolveField evaluate field = .ok (field.1, v) := by simp [resolveField, first, Except.map]
      rw [mapM_cons_ok _ value, ih]

namespace Binder

inductive Leveled (evaluate : Evaluator) (tree : Params) : Except BindError Severity → Prop
  | absent (none : tree.get? levelKey = none) : Leveled evaluate tree (.ok .error)
  | spelled {raw : Value} {content : String} {level : Severity} (given : tree.get? levelKey = some raw)
      (resolved : resolve evaluate raw = .ok (.text content)) (spells : Severity.read? content = some level) :
      Leveled evaluate tree (.ok level)
  | misspelled {raw : Value} {content : String} (given : tree.get? levelKey = some raw)
      (resolved : resolve evaluate raw = .ok (.text content)) (spells : Severity.read? content = none) :
      Leveled evaluate tree (.error (.invalidLevel content))
  | untyped {raw v : Value} (given : tree.get? levelKey = some raw) (resolved : resolve evaluate raw = .ok v)
      (other : ∀ content, v ≠ .text content) : Leveled evaluate tree (.error (.invalidLevel v.compact))
  | unresolved {raw : Value} {e : BindError} (given : tree.get? levelKey = some raw)
      (fails : resolve evaluate raw = .error e) : Leveled evaluate tree (.error e)

structure Bound (evaluate : Evaluator) (tree params : Params) : Prop where
  apart : params.get? levelKey = none
  resolved : ∀ key, key ≠ levelKey →
    Option.Rel (fun raw v => resolve evaluate raw = .ok v) (tree.get? key) (params.get? key)

/-- The first parameter but the severity that cannot be resolved, and why it cannot. -/
def Unbound (evaluate : Evaluator) (tree : Params) (e : BindError) : Prop :=
  ∃ key raw, key ≠ levelKey ∧ tree.get? key = some raw ∧ resolve evaluate raw = .error e ∧
    ∀ other v, other ≠ levelKey → other < key → tree.get? other = some v → ∃ w, resolve evaluate v = .ok w

variable {evaluate : Evaluator} {tree params : Params}

theorem Leveled.level_eq {result : Except BindError Severity} (leveled : Leveled evaluate tree result)
    (rule : String) : level evaluate rule tree = result.mapError (failed rule) := by
  unfold level
  cases leveled with
  | absent none =>
    rw [none]
    rfl
  | spelled given resolved spells => simp [given, resolved, Severity.parse, spells, Except.mapError]
  | misspelled given resolved spells => simp [given, resolved, Severity.parse, spells, Except.mapError]
  | unresolved given fails => simp [given, fails, Except.mapError]
  | untyped given resolved other => simp only [given, resolved, Except.mapError]

theorem exists_leveled (evaluate : Evaluator) (tree : Params) : ∃ result, Leveled evaluate tree result := by
  cases given : tree.get? levelKey with
  | none => exact ⟨_, .absent given⟩
  | some raw =>
    cases resolved : resolve evaluate raw with
    | error e => exact ⟨_, .unresolved given resolved⟩
    | ok v =>
      by_cases text : ∃ content, v = .text content
      · obtain ⟨content, rfl⟩ := text
        cases spells : Severity.read? content with
        | none => exact ⟨_, .misspelled given resolved spells⟩
        | some level => exact ⟨_, .spelled given resolved spells⟩
      · exact ⟨_, .untyped given resolved fun content same => text ⟨content, same⟩⟩

theorem Bound.unique {other : Params} (bound : Bound evaluate tree params) (bound' : Bound evaluate tree other) :
    params = other := by
  apply Dict.ext_get?
  intro key
  by_cases severity : key = levelKey
  · rw [severity, bound.apart, bound'.apart]
  · have left := bound.resolved key severity
    have right := bound'.resolved key severity
    generalize tree.get? key = raw, params.get? key = v, other.get? key = w at left right ⊢
    cases left with
    | none => cases right; rfl
    | some value =>
      cases right with
      | some value' =>
        cases value.symm.trans value'
        rfl

theorem Unbound.unique {e fault : BindError} (unbound : Unbound evaluate tree e)
    (unbound' : Unbound evaluate tree fault) : e = fault := by
  obtain ⟨key, raw, apart, given, fails, least⟩ := unbound
  obtain ⟨key', raw', apart', given', fails', least'⟩ := unbound'
  have notBefore : ¬ key < key' := by
    intro before
    obtain ⟨v, value⟩ := least' key raw apart before given
    cases fails.symm.trans value
  have notAfter : ¬ key' < key := by
    intro after
    obtain ⟨v, value⟩ := least key' raw' apart' after given'
    cases fails'.symm.trans value
  have same : key = key' := String.le_antisymm (String.not_lt.1 notAfter) (String.not_lt.1 notBefore)
  subst same
  cases given.symm.trans given'
  exact Except.error.inj (fails.symm.trans fails')

theorem Unbound.not_bound {e : BindError} (unbound : Unbound evaluate tree e) : ¬ Bound evaluate tree params := by
  obtain ⟨key, raw, other, given, fails, -⟩ := unbound
  intro bound
  have resolved := bound.resolved key other
  rw [given] at resolved
  generalize params.get? key = v at resolved
  cases resolved with
  | some value => cases fails.symm.trans value

theorem bound_of_parameters (read : parameters evaluate tree = .ok params) : Bound evaluate tree params := by
  rw [parameters, resolveFields_eq] at read
  cases fields : (tree.erase levelKey).entries.mapM (resolveField evaluate) with
  | error e => simp [fields, Except.map] at read
  | ok resolved =>
    simp only [fields, Except.map, Except.ok.injEq] at read
    have related := (mapM_ok_iff _ _).1 fields
    simp only [resolveField_ok_iff] at related
    have keys : resolved.map Prod.fst = (tree.erase levelKey).entries.map Prod.fst := by
      have same := related.imp fun a b both => both.1
      rw [← List.forall₂_eq_eq_eq, List.forall₂_map_left_iff, List.forall₂_map_right_iff]
      exact same.flip
    have kept : params.entries = resolved := by
      rw [← read]
      exact Dict.entries_ofList (keys ▸ (tree.erase levelKey).sorted)
    have found : ∀ key, Option.Rel (fun raw v => resolve evaluate raw = .ok v)
        ((tree.erase levelKey).get? key) (params.get? key) := by
      intro key
      rw [Dict.get?, Dict.get?, kept]
      exact Dict.lookup_forall₂ related key
    constructor
    · have severity := found levelKey
      rw [Dict.get?_erase, if_pos rfl] at severity
      generalize params.get? levelKey = held at severity ⊢
      cases severity
      rfl
    · intro key other
      have here := found key
      rwa [Dict.get?_erase, if_neg other] at here

theorem unbound_of_parameters {e : BindError} (read : parameters evaluate tree = .error e) :
    Unbound evaluate tree e := by
  rw [parameters, resolveFields_eq] at read
  cases fields : (tree.erase levelKey).entries.mapM (resolveField evaluate) with
  | ok resolved => simp [fields, Except.map] at read
  | error fault =>
    simp only [fields, Except.map, Except.error.injEq] at read
    subst read
    obtain ⟨before, ⟨key, raw⟩, after, split, earlier, fails⟩ := (mapM_error_iff _ _).1 fields
    rw [resolveField_error_iff] at fails
    have listed : ∀ {k v}, (k, v) ∈ (tree.erase levelKey).entries ↔ k ≠ levelKey ∧ tree.get? k = some v := by
      intro k v
      rw [Dict.mem_entries_iff, Dict.get?_erase]
      by_cases severity : k = levelKey <;> simp [severity]
    have here := listed.1 (split ▸ List.mem_append_right before List.mem_cons_self)
    refine ⟨key, raw, here.1, here.2, fails, ?_⟩
    intro other v apart least given
    have member := listed.2 ⟨apart, given⟩
    rw [split] at member
    rcases List.mem_append.1 member with member | member
    · obtain ⟨resolved, value⟩ := earlier _ member
      exact ⟨resolved.2, ((resolveField_ok_iff _ _ _).1 value).2⟩
    · have sorted := (tree.erase levelKey).sorted
      rw [split, List.map_append, List.map_cons] at sorted
      have tail := (List.pairwise_append.1 sorted).2.1
      rcases List.mem_cons.1 member with same | member
      · cases same
        exact absurd least (String.lt_irrefl _)
      · have after := (List.pairwise_cons.1 tail).1 other (List.mem_map_of_mem member)
        exact absurd least (String.lt_asymm after)

theorem parameters_ok_iff : parameters evaluate tree = .ok params ↔ Bound evaluate tree params := by
  constructor
  · exact bound_of_parameters
  · intro bound
    cases read : parameters evaluate tree with
    | ok other => rw [bound.unique (bound_of_parameters read)]
    | error e => exact absurd bound (unbound_of_parameters read).not_bound

theorem parameters_error_iff {e : BindError} :
    parameters evaluate tree = .error e ↔ Unbound evaluate tree e := by
  constructor
  · exact unbound_of_parameters
  · intro unbound
    cases read : parameters evaluate tree with
    | ok params => exact absurd (bound_of_parameters read) unbound.not_bound
    | error fault => rw [(unbound_of_parameters read).unique unbound]

end Binder

end BuildGate
