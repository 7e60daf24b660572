import BuildGate.Proofs.Binding.Parameters
import BuildGate.Proofs.Document.Address
import BuildGate.Proofs.Document.Decoders

namespace BuildGate

theorem forall₂_congr {α β : Type} {R S : α → β → Prop} {xs : List α} {ys : List β}
    (same : ∀ x ∈ xs, ∀ y, R x y ↔ S x y) : List.Forall₂ R xs ys ↔ List.Forall₂ S xs ys := by
  induction xs generalizing ys with
  | nil => simp only [List.forall₂_nil_left_iff]
  | cons x rest ih =>
    simp only [List.forall₂_cons_left_iff, same x List.mem_cons_self,
      ih fun y member => same y (List.mem_cons_of_mem _ member)]

theorem forall₂_map_iff {α β : Type} (R : α → β → Prop) (fields : List (String × α)) (others : List (String × β)) :
    List.Forall₂ (fun field other => other.1 = field.1 ∧ R field.2 other.2) fields others ↔
      others.map Prod.fst = fields.map Prod.fst ∧ List.Forall₂ R (fields.map Prod.snd) (others.map Prod.snd) := by
  induction fields generalizing others with
  | nil => cases others <;> simp
  | cons field rest ih => cases others <;> simp [ih, and_assoc, and_left_comm]

variable {evaluate : Evaluator} {v w : Value} {e fault : BindError}

/-- The value of the one shape with the other: every text has become what it resolves to on its own. -/
inductive Resolves (evaluate : Evaluator) : Value → Value → Prop
  | null : Resolves evaluate .null .null
  | bool (flag : Bool) : Resolves evaluate (.bool flag) (.bool flag)
  | int (number : Int) : Resolves evaluate (.int number) (.int number)
  | float (number : Float) : Resolves evaluate (.float number) (.float number)
  | text {content : String} {v : Value} (alone : resolve evaluate (.text content) = .ok v) :
      Resolves evaluate (.text content) v
  | list {items values : List Value} (each : List.Forall₂ (Resolves evaluate) items values) :
      Resolves evaluate (.list items) (.list values)
  | record {fields values : List (String × Value)} (keys : values.map Prod.fst = fields.map Prod.fst)
      (each : List.Forall₂ (Resolves evaluate) (fields.map Prod.snd) (values.map Prod.snd)) :
      Resolves evaluate (.record fields) (.record values)

/-- A text of the value fails on its own, and every text in front of it resolves. -/
def FailsFirst (evaluate : Evaluator) (v : Value) (e : BindError) : Prop :=
  ∃ place content, v.at? place = some (.text content) ∧ resolve evaluate (.text content) = .error e ∧
    ∀ earlier other, Value.Ahead earlier place → v.at? earlier = some (.text other) →
      ∃ w, resolve evaluate (.text other) = .ok w

theorem resolveItems_eq (evaluate : Evaluator) (items : List Value) :
    resolveItems evaluate items = items.mapM (resolve evaluate) := by
  induction items with
  | nil => rfl
  | cons item rest ih =>
    rw [resolveItems]
    cases first : resolve evaluate item with
    | error e => rw [mapM_cons_error _ first]
    | ok v => rw [mapM_cons_ok _ first, ih]

theorem resolve_list_ok_iff (items : List Value) :
    resolve evaluate (.list items) = .ok w ↔
      ∃ values, List.Forall₂ (fun item v => resolve evaluate item = .ok v) items values ∧ w = .list values := by
  simp only [resolve, resolveItems_eq, Decode.map_ok_iff, mapM_ok_iff]

theorem resolveFields_ok_iff (fields values : List (String × Value)) :
    resolveFields evaluate fields = .ok values ↔ values.map Prod.fst = fields.map Prod.fst ∧
      List.Forall₂ (fun v w => resolve evaluate v = .ok w) (fields.map Prod.snd) (values.map Prod.snd) := by
  simp only [resolveFields_eq, mapM_ok_iff, resolveField_ok_iff]
  exact forall₂_map_iff (fun v w => resolve evaluate v = .ok w) fields values

theorem resolve_ok_iff (v w : Value) : resolve evaluate v = .ok w ↔ Resolves evaluate v w := by
  induction v using Value.nestedInduction generalizing w with
  | text content => exact ⟨.text, fun (.text alone) => alone⟩
  | list items inside =>
    rw [resolve_list_ok_iff]
    constructor
    · rintro ⟨values, each, rfl⟩
      exact .list ((forall₂_congr inside).1 each)
    · rintro (_ | _ | _ | _ | _ | each)
      exact ⟨_, (forall₂_congr inside).2 each, rfl⟩
  | record fields inside =>
    have inside : ∀ v ∈ fields.map Prod.snd, ∀ w, resolve evaluate v = .ok w ↔ Resolves evaluate v w := by
      simpa using fun v key member => inside (key, v) member
    simp only [resolve, Decode.map_ok_iff, resolveFields_ok_iff]
    constructor
    · rintro ⟨values, ⟨keys, each⟩, rfl⟩
      exact .record keys ((forall₂_congr inside).1 each)
    · rintro (_ | _ | _ | _ | _ | _ | ⟨keys, each⟩)
      exact ⟨_, ⟨keys, (forall₂_congr inside).2 each⟩, rfl⟩
  | _ =>
    simp only [resolve, Except.ok.injEq]
    constructor
    · rintro rfl
      constructor
    · intro resolves
      cases resolves
      rfl

theorem Resolves.texts (resolves : Resolves evaluate v w) {place : List Value.Step} {content : String}
    (there : v.at? place = some (.text content)) : ∃ u, resolve evaluate (.text content) = .ok u := by
  induction place generalizing v w with
  | nil =>
    obtain rfl := Option.some.inj there
    cases resolves with
    | text alone => exact ⟨w, alone⟩
  | cons step rest ih =>
    cases resolves with
    | list each =>
      obtain ⟨position, below, item, same, found, inside⟩ := (Value.at?_list_text_iff _ _ _).1 there
      obtain ⟨rfl, rfl⟩ := List.cons.inj same
      obtain ⟨bound, rfl⟩ := List.getElem?_eq_some_iff.1 found
      exact ih (each.get bound (each.length_eq ▸ bound)) inside
    | record keys each =>
      rename_i fields values
      obtain ⟨key, below, u, same, found, inside⟩ := (Value.at?_record_text_iff _ _ _).1 there
      obtain ⟨rfl, rfl⟩ := List.cons.inj same
      have related := (forall₂_map_iff (Resolves evaluate) fields values).2 ⟨keys, each⟩
      have both := Dict.lookup_forall₂ related key
      rw [found] at both
      generalize values.lookup key = other at both
      cases both with
      | some resolves => exact ih resolves inside
    | text alone => cases ((Value.at?_text_iff _ _ _).1 there).1
    | _ => simp [Value.at?] at there

theorem FailsFirst.not_resolves (fails : FailsFirst evaluate v e) : ¬ Resolves evaluate v w := by
  intro resolves
  obtain ⟨place, content, there, error, -⟩ := fails
  obtain ⟨u, alone⟩ := resolves.texts there
  cases error.symm.trans alone

theorem FailsFirst.unique (fails : FailsFirst evaluate v e) (fails' : FailsFirst evaluate v fault) : e = fault := by
  obtain ⟨place, content, there, error, earlier⟩ := fails
  obtain ⟨place', content', there', error', earlier'⟩ := fails'
  rcases Value.ahead_total there there' with rfl | ahead | behind
  · cases there.symm.trans there'
    exact Except.error.inj (error.symm.trans error')
  · obtain ⟨u, alone⟩ := earlier' place content ahead there
    cases error.symm.trans alone
  · obtain ⟨u, alone⟩ := earlier place' content' behind there'
    cases error'.symm.trans alone

theorem FailsFirst.item {before after : List Value} (fails : FailsFirst evaluate v e)
    (resolved : ∀ item ∈ before, ∃ w, resolve evaluate item = .ok w) :
    FailsFirst evaluate (.list (before ++ v :: after)) e := by
  obtain ⟨place, content, there, error, earlier⟩ := fails
  have here : (before ++ v :: after)[before.length]? = some v := by simp
  refine ⟨.item before.length :: place, content, ?_, error, ?_⟩
  · exact (Value.at?_list_text_iff _ _ _).2 ⟨_, _, v, rfl, here, there⟩
  · intro other text ahead found
    obtain ⟨position, below, item, rfl, listed, inside⟩ := (Value.at?_list_text_iff _ _ _).1 found
    cases ahead with
    | cons ahead =>
      cases here.symm.trans listed
      exact earlier below text ahead inside
    | rel first =>
      cases first with
      | item less =>
        rw [List.getElem?_append_left less] at listed
        obtain ⟨w, value⟩ := resolved item (List.mem_of_getElem? listed)
        exact ((resolve_ok_iff item w).1 value).texts inside

theorem FailsFirst.field {key : String} {before after : List (String × Value)} (fails : FailsFirst evaluate v e)
    (sorted : ((before ++ (key, v) :: after).map Prod.fst).Pairwise (· < ·))
    (resolved : ∀ field ∈ before, ∃ w, resolve evaluate field.2 = .ok w) :
    FailsFirst evaluate (.record (before ++ (key, v) :: after)) e := by
  obtain ⟨place, content, there, error, earlier⟩ := fails
  let d : Dict Value := ⟨before ++ (key, v) :: after, sorted⟩
  have here : d.get? key = some v := (d.mem_entries_iff key v).1 (List.mem_append_right before List.mem_cons_self)
  refine ⟨.field key :: place, content, ?_, error, ?_⟩
  · exact (Value.at?_record_text_iff _ _ _).2 ⟨_, _, v, rfl, here, there⟩
  · intro other text ahead found
    obtain ⟨name, below, u, rfl, listed, inside⟩ := (Value.at?_record_text_iff _ _ _).1 found
    cases ahead with
    | cons ahead =>
      cases here.symm.trans listed
      exact earlier below text ahead inside
    | rel first =>
      cases first with
      | field less =>
        have member : (name, u) ∈ d.entries := (d.mem_entries_iff name u).2 listed
        rcases List.mem_append.1 member with member | member
        · obtain ⟨w, value⟩ := resolved _ member
          exact ((resolve_ok_iff u w).1 value).texts inside
        · -- The keys ascend, so none of the later ones comes before.
          rw [List.map_append, List.map_cons] at sorted
          have tail := (List.pairwise_append.1 sorted).2.1
          rcases List.mem_cons.1 member with same | member
          · cases same
            exact absurd less (String.lt_irrefl _)
          · have after := (List.pairwise_cons.1 tail).1 name (List.mem_map_of_mem member)
            exact absurd less (String.lt_asymm after)

theorem failsFirst_of_resolve (ordered : v.Ordered) (fails : resolve evaluate v = .error e) :
    FailsFirst evaluate v e := by
  induction v using Value.nestedInduction with
  | text content =>
    refine ⟨[], content, rfl, fails, ?_⟩
    intro earlier other ahead
    cases ahead
  | list items inside =>
    rw [resolve, Decode.map_error_iff, resolveItems_eq, mapM_error_iff] at fails
    obtain ⟨before, item, after, rfl, resolved, error⟩ := fails
    have member : item ∈ before ++ item :: after := by simp
    exact (inside item member ((Value.orderedList_iff _).1 ordered item member) error).item resolved
  | record fields inside =>
    rw [resolve, Decode.map_error_iff, resolveFields_eq, mapM_error_iff] at fails
    obtain ⟨before, ⟨key, u⟩, after, rfl, resolved, error⟩ := fails
    have member : (key, u) ∈ before ++ (key, u) :: after := by simp
    have first := inside (key, u) member ((Value.orderedFields_iff _).1 ordered.2 _ member)
      ((resolveField_error_iff _ _ _).1 error)
    refine first.field ordered.1 fun field earlier => ?_
    obtain ⟨result, value⟩ := resolved field earlier
    exact ⟨result.2, ((resolveField_ok_iff _ _ _).1 value).2⟩
  | _ => cases fails

theorem resolve_error_iff (ordered : v.Ordered) (e : BindError) :
    resolve evaluate v = .error e ↔ FailsFirst evaluate v e := by
  constructor
  · exact failsFirst_of_resolve ordered
  · intro fails
    cases result : resolve evaluate v with
    | ok w => exact absurd ((resolve_ok_iff v w).1 result) fails.not_resolves
    | error fault => rw [(failsFirst_of_resolve ordered result).unique fails]

theorem fails_iff (ordered : v.Ordered) :
    (∃ e, resolve evaluate v = .error e) ↔
      ∃ place content e, v.at? place = some (.text content) ∧ resolve evaluate (.text content) = .error e := by
  constructor
  · rintro ⟨e, fails⟩
    obtain ⟨place, content, there, error, -⟩ := failsFirst_of_resolve ordered fails
    exact ⟨place, content, e, there, error⟩
  · rintro ⟨place, content, e, there, error⟩
    cases result : resolve evaluate v with
    | error fault => exact ⟨fault, rfl⟩
    | ok w =>
      obtain ⟨u, alone⟩ := ((resolve_ok_iff v w).1 result).texts there
      cases error.symm.trans alone

namespace Binder

variable {tree params : Params}

theorem parameters_ok_iff_resolve :
    parameters evaluate tree = .ok params ↔
      resolve evaluate (.ofDict (tree.erase levelKey)) = .ok (.ofDict params) := by
  rw [parameters, Value.ofDict, resolve, Decode.map_ok_iff, Decode.map_ok_iff]
  constructor
  · rintro ⟨resolved, fields, rfl⟩
    have keys := ((resolveFields_ok_iff _ _).1 fields).1
    refine ⟨resolved, fields, congrArg Value.record ?_⟩
    exact Dict.entries_ofList (keys ▸ (tree.erase levelKey).sorted)
  · rintro ⟨resolved, fields, same⟩
    refine ⟨resolved, fields, ?_⟩
    rw [← Value.record.inj same, Dict.ofList_entries]

theorem parameters_error_iff_resolve :
    parameters evaluate tree = .error e ↔ resolve evaluate (.ofDict (tree.erase levelKey)) = .error e := by
  rw [parameters, Value.ofDict, resolve, Decode.map_error_iff, Decode.map_error_iff]

/-- What comes of a rule that is handed its parameters and answers. -/
def configured (name : String) (params : Params) :
    List Notice × Except BindError Rule → List Notice × Except Failure Rule
  | (notices, .error e) => (notices, .error (failed name e))
  | (notices, .ok rule) => (notices ++ [.bound name params.size], .ok rule)

theorem bind_of_parameters (name : String) (log : Option RuleLog) (blueprint : Blueprint)
    (read : parameters evaluate tree = .ok params) :
    bind evaluate name log blueprint tree = configured name params (blueprint.configure log params) := by
  rw [bind, read]
  rcases answer : blueprint.configure log params with ⟨notices, _ | rule⟩ <;> simp only [answer, configured]

theorem erase_level_ordered (ordered : (Value.ofDict tree).Ordered) :
    (Value.ofDict (tree.erase levelKey)).Ordered := by
  refine ⟨(tree.erase levelKey).sorted, (Value.orderedFields_iff _).2 fun field member => ?_⟩
  exact (Value.orderedFields_iff _).1 ordered.2 field (List.mem_of_mem_filter member)

/-- A value resolves text by text, and fails with the fault of the first text that fails. The rule is handed its
    tree without the severity as it resolves in this way, and neither the severity nor the other parameters matter
    to how the other is read. -/
theorem resolves_text_by_text (evaluate : Evaluator) :
    (∀ v : Value, v.Ordered →
      (∀ w, resolve evaluate v = .ok w ↔ Resolves evaluate v w) ∧
      (∀ e, resolve evaluate v = .error e ↔ FailsFirst evaluate v e) ∧
      ((∃ e, resolve evaluate v = .error e) ↔ ∃ place content e,
        v.at? place = some (.text content) ∧ resolve evaluate (.text content) = .error e)) ∧
    ∀ tree : Params, (Value.ofDict tree).Ordered → ∀ (name : String) (log : Option RuleLog) (blueprint : Blueprint),
      let others := Value.ofDict (tree.erase levelKey)
      (∀ params, Resolves evaluate others (.ofDict params) →
        bind evaluate name log blueprint tree = configured name params (blueprint.configure log params)) ∧
      (∀ e, FailsFirst evaluate others e → bind evaluate name log blueprint tree = ([], .error (failed name e))) ∧
      ((∃ params, Resolves evaluate others (.ofDict params)) ∨ ∃ e, FailsFirst evaluate others e) ∧
      (∀ tree' : Params, (∀ key, key ≠ levelKey → tree'.get? key = tree.get? key) →
        bind evaluate name log blueprint tree' = bind evaluate name log blueprint tree) ∧
      (∀ tree' : Params, tree'.get? levelKey = tree.get? levelKey →
        level evaluate name tree' = level evaluate name tree) := by
  refine ⟨fun v ordered => ⟨resolve_ok_iff v, resolve_error_iff ordered, fails_iff ordered⟩, ?_⟩
  intro tree ordered name log blueprint others
  have apart : others.Ordered := erase_level_ordered ordered
  refine ⟨fun params resolves => ?_, fun e fails => ?_, ?_, fun tree' same => ?_, fun tree' same => ?_⟩
  · exact bind_of_parameters name log blueprint
      (parameters_ok_iff_resolve.2 ((resolve_ok_iff others (.ofDict params)).2 resolves))
  · rw [bind, parameters_error_iff_resolve.2 ((resolve_error_iff apart e).2 fails)]
  · cases read : parameters evaluate tree with
    | ok params => exact .inl ⟨params, (resolve_ok_iff _ _).1 (parameters_ok_iff_resolve.1 read)⟩
    | error e => exact .inr ⟨e, (resolve_error_iff apart e).1 (parameters_error_iff_resolve.1 read)⟩
  · have erased : tree'.erase levelKey = tree.erase levelKey := by
      apply Dict.ext_get?
      intro key
      rw [Dict.get?_erase, Dict.get?_erase]
      split
      · rfl
      · exact same key ‹_›
    simp only [bind, parameters, erased]
  · rw [level, level, same]

/-- The severity cannot be resolved, a parameter of that name further down cannot either, and neither can a text
    behind that one. -/
theorem resolves_text_by_text_nested :
    let evaluate : Evaluator := fun text => if text = "n" then .ok (.int 1) else .error "unknown"
    let inner := Value.record [("level", .text "$\x7bx\x7d")]
    let files := Value.list [.text "$\x7bn\x7d", inner, .text "$\x7by\x7d"]
    let tree : Params := ⟨[("files", files), ("level", .text "$\x7bz\x7d")], by decide⟩
    let blueprint := Blueprint.ofRule (.plain fun _ => .silent .passed)
    (Value.ofDict tree).Ordered ∧
      FailsFirst evaluate (.ofDict (tree.erase levelKey)) (.unresolved "x" "unknown") ∧
      bind evaluate "check" none blueprint tree = ([], .error (failed "check" (.unresolved "x" "unknown"))) := by
  intro evaluate inner files tree blueprint
  have nested : files.Ordered := ⟨trivial, ⟨by decide, trivial, trivial⟩, trivial, trivial⟩
  have ordered : (Value.ofDict tree).Ordered := ⟨tree.sorted, nested, trivial, trivial⟩
  have fails : resolve evaluate (.ofDict (tree.erase levelKey)) = .error (.unresolved "x" "unknown") := rfl
  obtain ⟨values, trees⟩ := resolves_text_by_text evaluate
  have first := ((values _ (erase_level_ordered ordered)).2.1 _).1 fails
  exact ⟨ordered, first, (trees tree ordered "check" none blueprint).2.1 _ first⟩

end Binder

end BuildGate
