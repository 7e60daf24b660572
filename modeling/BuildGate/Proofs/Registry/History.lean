import BuildGate.Proofs.Dict.Latest
import BuildGate.Proofs.Enforcement.Preparation
import BuildGate.Proofs.Rule.CanonicalName

namespace BuildGate

inductive Enrolment where
  | component (name : String) (registration : Registration)
  | type (registration : Registration)
  | both (entry : RuleEntry)

namespace Enrolment

def component? : Enrolment → Option (String × Registration)
  | component name registration => some (name, registration)
  | type _ => none
  | both entry => some (entry.name, entry.toRegistration)

def type? : Enrolment → Option Registration
  | component _ _ => none
  | type registration => some registration
  | both entry => some entry.toRegistration

end Enrolment

namespace Registry

open RuleName (canonical conventional)

def enrol (registry : Registry) : Enrolment → Registry
  | .component name registration => registry.registerComponent name registration
  | .type registration => registry.registerType registration
  | .both entry => registry.register entry

def after (history : List Enrolment) : Registry := history.foldl enrol empty

def componentsOf (history : List Enrolment) : List (String × Registration) :=
  history.filterMap Enrolment.component?

def typesOf (history : List Enrolment) : List Registration := history.filterMap Enrolment.type?

/-- The type that a declaration asks for: the given one, or else the one its name stands for. -/
inductive Asks (name : String) : Option String → String → Prop
  | unnamed : Asks name none (conventional name)
  | blank {given : String} (blank : ∀ c ∈ given.toList, Text.isBlank c = true) :
      Asks name (some given) (conventional name)
  | given {given : String} {c : Char} (member : c ∈ given.toList) (visible : Text.isBlank c = false) :
      Asks name (some given) (Text.trim given)

inductive Resolves (history : List Enrolment) (name : String) (implementation : Option String) :
    Except Failure Resolved → Prop
  | component {entered : String} {found : Registration}
      (latest : Latest (canonical ·.1 = canonical name) (componentsOf history) (entered, found)) :
      Resolves history name implementation (.ok ⟨canonical name, found.implementation, found.blueprint⟩)
  | type {reference : String} {found : Registration}
      (unlisted : ∀ c ∈ componentsOf history, canonical c.1 ≠ canonical name)
      (asks : Asks name implementation reference)
      (latest : Latest (·.implementation = reference) (typesOf history) found) :
      Resolves history name implementation (.ok ⟨canonical name, found.implementation, found.blueprint⟩)
  | unknown {reference : String} (unlisted : ∀ c ∈ componentsOf history, canonical c.1 ≠ canonical name)
      (asks : Asks name implementation reference)
      (absent : ∀ t ∈ typesOf history, t.implementation ≠ reference) :
      Resolves history name implementation (.error (.creation (canonical name) reference))

theorem foldl_enrol (history : List Enrolment) (registry : Registry) :
    history.foldl enrol registry =
      ⟨registry.components.insertAll ((componentsOf history).map fun c => (canonical c.1, c.2)),
        registry.types.insertAll ((typesOf history).map fun t => (t.implementation, t))⟩ := by
  induction history generalizing registry with
  | nil => rfl
  | cons step rest ih =>
    rw [List.foldl_cons, ih]
    cases step <;> rfl

theorem after_components (history : List Enrolment) :
    (after history).components = .ofList ((componentsOf history).map fun c => (canonical c.1, c.2)) := by
  rw [after, foldl_enrol]
  rfl

theorem after_types (history : List Enrolment) :
    (after history).types = .ofList ((typesOf history).map fun t => (t.implementation, t)) := by
  rw [after, foldl_enrol]
  rfl

theorem get?_components_iff (history : List Enrolment) (key : String) (found : Registration) :
    (after history).components.get? key = some found ↔
      ∃ entered, Latest (canonical ·.1 = key) (componentsOf history) (entered, found) := by
  rw [after_components, Dict.get?_ofList_eq_some_iff, latest_map_iff]
  constructor
  · rintro ⟨⟨entered, registration⟩, same, latest⟩
    obtain ⟨-, rfl⟩ := Prod.mk.inj same
    exact ⟨entered, latest⟩
  · rintro ⟨entered, latest⟩
    exact ⟨(entered, found), Prod.ext latest.mem.2 rfl, latest⟩

theorem components_lack_iff (history : List Enrolment) (key : String) :
    (after history).components.get? key = none ↔ ∀ c ∈ componentsOf history, canonical c.1 ≠ key := by
  rw [after_components, Dict.get?_ofList_eq_none_iff, List.forall_mem_map]

theorem get?_types_iff (history : List Enrolment) (reference : String) (found : Registration) :
    (after history).types.get? reference = some found ↔
      Latest (·.implementation = reference) (typesOf history) found := by
  rw [after_types, Dict.get?_ofList_eq_some_iff, latest_map_iff]
  constructor
  · rintro ⟨registration, same, latest⟩
    obtain ⟨-, rfl⟩ := Prod.mk.inj same
    exact latest
  · intro latest
    exact ⟨found, Prod.ext latest.mem.2 rfl, latest⟩

theorem types_lack_iff (history : List Enrolment) (reference : String) :
    (after history).types.get? reference = none ↔ ∀ t ∈ typesOf history, t.implementation ≠ reference := by
  rw [after_types, Dict.get?_ofList_eq_none_iff, List.forall_mem_map]

theorem typeReference_blank {name given : String} (blank : Text.isBlankText given = true) :
    typeReference name (some given) = conventional name := by
  simp only [typeReference, blank, ↓reduceIte]

theorem typeReference_given {name given : String} (mixed : Text.isBlankText given = false) :
    typeReference name (some given) = Text.trim given := by
  simp only [typeReference, mixed, Bool.false_eq_true, ↓reduceIte]

theorem asks_typeReference (name : String) (implementation : Option String) :
    Asks name implementation (typeReference name implementation) := by
  cases implementation with
  | none => exact .unnamed
  | some given =>
    cases blank : Text.isBlankText given with
    | true =>
      rw [typeReference_blank blank]
      exact .blank (List.all_eq_true.1 blank)
    | false =>
      obtain ⟨c, member, visible⟩ := List.all_eq_false.1 blank
      rw [typeReference_given blank]
      exact .given member (by simpa using visible)

theorem Asks.typeReference_eq {name reference : String} {implementation : Option String}
    (asks : Asks name implementation reference) : typeReference name implementation = reference := by
  cases asks with
  | unnamed => rfl
  | blank blank => exact typeReference_blank (List.all_eq_true.2 blank)
  | given member visible => exact typeReference_given (List.all_eq_false.2 ⟨_, member, by simp [visible]⟩)

theorem create_iff (history : List Enrolment) (name : String) (implementation : Option String)
    (result : Except Failure Resolved) :
    ((after history).create name implementation).2 = result ↔ Resolves history name implementation result := by
  constructor
  · rintro rfl
    have asks := asks_typeReference name implementation
    rcases (after history).finds_or_lacks name implementation with ⟨found, finds⟩ | lacks
    · rw [finds.create_eq]
      cases finds with
      | component listed =>
        obtain ⟨entered, latest⟩ := (get?_components_iff history _ found).1 listed
        exact .component latest
      | type unlisted listed =>
        exact .type ((components_lack_iff history _).1 unlisted) asks ((get?_types_iff history _ found).1 listed)
    · rw [lacks.create_eq]
      exact .unknown ((components_lack_iff history _).1 lacks.1) asks ((types_lack_iff history _).1 lacks.2)
  · intro resolves
    cases resolves with
    | component latest =>
      exact (Finds.component ((get?_components_iff history _ _).2 ⟨_, latest⟩)).create_eq
    | type unlisted asks latest =>
      obtain rfl := asks.typeReference_eq
      exact (Finds.type ((components_lack_iff history _).2 unlisted)
        ((get?_types_iff history _ _).2 latest)).create_eq
    | unknown unlisted asks absent =>
      obtain rfl := asks.typeReference_eq
      exact Lacks.create_eq ⟨(components_lack_iff history _).2 unlisted, (types_lack_iff history _).2 absent⟩

theorem contains_iff_create (registry : Registry) {name : String} {implementation : Option String}
    (bare : typeReference name implementation = conventional name) :
    registry.contains name = true ↔ ∃ found, (registry.create name implementation).2 = .ok found := by
  rw [contains, Bool.or_eq_true]
  rcases registry.finds_or_lacks name implementation with ⟨found, finds⟩ | lacks
  · rw [finds.create_eq]
    refine iff_of_true ?_ ⟨_, rfl⟩
    cases finds with
    | component listed => exact .inl (by simp [Dict.contains, listed])
    | type _ listed => exact .inr (by simp [Dict.contains, ← bare, listed])
  · rw [lacks.create_eq]
    obtain ⟨component, type⟩ := lacks
    rw [bare] at type
    simp [Dict.contains, component, type]

theorem mem_list_iff (history : List Enrolment) (key implementation description : String) :
    (key, implementation, description) ∈ (after history).list ↔
      ∃ entered found, Latest (canonical ·.1 = key) (componentsOf history) (entered, found) ∧
        found.implementation = implementation ∧ found.description = description := by
  constructor
  · intro listed
    obtain ⟨⟨name, found⟩, member, same⟩ := List.mem_map.1 listed
    simp only [Prod.mk.injEq] at same
    obtain ⟨rfl, rfl, rfl⟩ := same
    obtain ⟨entered, latest⟩ := (get?_components_iff history name found).1 ((Dict.mem_entries_iff _ _ _).1 member)
    exact ⟨entered, found, latest, rfl, rfl⟩
  · rintro ⟨entered, found, latest, rfl, rfl⟩
    have member := (Dict.mem_entries_iff _ _ _).2 ((get?_components_iff history key found).2 ⟨entered, latest⟩)
    exact List.mem_map.2 ⟨(key, found), member, rfl⟩

theorem list_sorted (registry : Registry) : (registry.list.map Prod.fst).Pairwise (· < ·) := by
  rw [list, List.map_map]
  exact registry.components.sorted

theorem mem_list_names_iff (history : List Enrolment) (key : String) :
    key ∈ (after history).list.map Prod.fst ↔ ∃ c ∈ componentsOf history, canonical c.1 = key := by
  constructor
  · intro listed
    obtain ⟨⟨name, implementation, description⟩, member, rfl⟩ := List.mem_map.1 listed
    obtain ⟨entered, found, latest, -⟩ := (mem_list_iff history _ _ _).1 member
    exact ⟨(entered, found), latest.mem⟩
  · rintro ⟨c, entered, named⟩
    cases known : (after history).components.get? key with
    | none => exact absurd named ((components_lack_iff history key).1 known c entered)
    | some found =>
      have latest := (get?_components_iff history key found).1 known
      obtain ⟨name, last⟩ := latest
      exact List.mem_map.2 ⟨_, (mem_list_iff history key _ _).2 ⟨name, found, last, rfl, rfl⟩, rfl⟩

/-- A declared rule is the latest component with its canonical name, or else the latest type that it asks for;
    a name suffices exactly where it resolves without an implementation; and the list shows the latest component
    under each canonical name once, in ascending order, and is true to what such a name resolves to. -/
theorem answers_by_latest (history : List Enrolment) :
    (∀ name implementation result, ((after history).create name implementation).2 = result ↔
      Resolves history name implementation result) ∧
    (∀ name blank, Text.isBlankText blank = true →
      ((after history).contains name = true ↔ ∃ found, ((after history).create name none).2 = .ok found) ∧
      ((after history).contains name = true ↔ ∃ found, ((after history).create name (some blank)).2 = .ok found)) ∧
    ((after history).list.map Prod.fst).Pairwise (· < ·) ∧
    (∀ key, key ∈ (after history).list.map Prod.fst ↔ ∃ c ∈ componentsOf history, canonical c.1 = key) ∧
    (∀ key implementation description, (key, implementation, description) ∈ (after history).list →
      ∃ entered found, Latest (canonical ·.1 = key) (componentsOf history) (entered, found) ∧
        found.implementation = implementation ∧ found.description = description ∧
        ∀ asked, ((after history).create key asked).2 = .ok ⟨key, implementation, found.blueprint⟩) := by
  refine ⟨create_iff history, ?_, list_sorted _, mem_list_names_iff history, ?_⟩
  · intro name blank isBlank
    have unnamed : typeReference name none = conventional name := rfl
    exact ⟨contains_iff_create _ unnamed, contains_iff_create _ (typeReference_blank isBlank)⟩
  · intro key implementation description listed
    obtain ⟨entered, found, latest, rfl, rfl⟩ := (mem_list_iff history key _ _).1 listed
    refine ⟨entered, found, latest, rfl, rfl, fun asked => ?_⟩
    -- The key is a canonical form, so it is its own.
    have settled : canonical key = key := by
      rw [← latest.mem.2]
      exact RuleName.canonical_canonical entered
    rw [create_iff]
    have resolves : Resolves history key asked (.ok ⟨canonical key, found.implementation, found.blueprint⟩) :=
      .component (settled.symm ▸ latest)
    rwa [settled] at resolves

theorem answers_by_latest_renewed :
    let plain := Blueprint.ofRule (Rule.plain fun _ => .silent .passed)
    let history := [.component "Check" ⟨"tests::Old", "old", plain⟩,
      .type ⟨"enforcer_rules::Other", "other", plain⟩, .component " check" ⟨"tests::New", "new", plain⟩]
    Text.isBlankText " " = true ∧ ((after history).create "Check" none).2 = .ok ⟨"check", "tests::New", plain⟩ ∧
      (∃ found, ((after history).create "other" (some " ")).2 = .ok found) ∧
      ("check", "tests::New", "new") ∈ (after history).list ∧
      ∃ blueprint, ((after history).create "check" (some "tests::Old")).2 = .ok ⟨"check", "tests::New", blueprint⟩ := by
  intro plain history
  obtain ⟨creates, bare, -, -, listed⟩ := answers_by_latest history
  have blank : Text.isBlankText " " = true := by decide
  have other : (after history).contains "other" = true := by decide +kernel
  have shown : ("check", "tests::New", "new") ∈ (after history).list := by decide +kernel
  have name : canonical "Check" = "check" := by decide +kernel
  have latest : Latest (canonical ·.1 = canonical "Check") (componentsOf history)
      (" check", ⟨"tests::New", "new", plain⟩) :=
    ⟨[("Check", ⟨"tests::Old", "old", plain⟩)], [], rfl, by decide +kernel, by simp⟩
  have created := (creates "Check" none _).2 (.component latest)
  rw [name] at created
  obtain ⟨entered, found, -, -, -, resolves⟩ := listed "check" "tests::New" "new" shown
  exact ⟨blank, created, (bare "other" " " blank).2.1 other, shown, found.blueprint, resolves (some "tests::Old")⟩

end Registry

end BuildGate
