import BuildGate.Proofs.Enforcement.Readiness
import BuildGate.Proofs.Registry.History
import BuildGate.Proofs.Text.UpperCase

namespace BuildGate

namespace RuleName

open Text

def Unqualified (name : String) : Prop := ¬ [':', ':'] <:+: name.toList

def initial? (name : String) : Option Char := (trimChars name.toList).head?

def Lone (name : String) : Prop := ∃ c ∈ initial? name, c.toNat ∈ loneCapitals

theorem lone_iff (name : String) :
    Lone name ↔ ∃ c ∈ initial? name, (lowerChar c).flatMap upperChar ≠ upperChar c := by
  simp only [Lone, ne_eq, flatMap_upperChar_lowerChar_iff, not_not]

/-- Spellings of one canonical name. -/
structure Akin (name other : String) : Prop where
  alike : canonical name = canonical other
  left : Unqualified name
  right : Unqualified other

def Matched (name other : String) : Prop := initial? name = initial? other ∨ ¬ Lone name ∧ ¬ Lone other

def raised (name : String) : List Char :=
  match trimChars name.toList with
  | [] => []
  | first :: rest => upperChar first ++ rest

theorem hasSeparator_iff (cs : List Char) : hasSeparator cs = true ↔ [':', ':'] <:+: cs := by
  fun_induction hasSeparator cs with
  | case1 rest => simpa using (List.prefix_append [':', ':'] rest).isInfix
  | case2 c rest apart ih =>
    rw [ih, List.infix_cons_iff, or_iff_right]
    rintro ⟨more, split⟩
    obtain ⟨rfl, rfl⟩ := List.cons.inj split
    exact apart more rfl rfl
  | case3 => simp

instance (name : String) : Decidable (Unqualified name) :=
  decidable_of_iff (¬ hasSeparator name.toList = true) (not_congr (hasSeparator_iff name.toList))

theorem trimChars_isInfixOf (cs : List Char) : trimChars cs <:+: cs := by
  have start : trimChars cs <+: cs.dropWhile isBlank := List.rdropWhile_prefix isBlank _
  exact start.isInfix.trans (List.dropWhile_suffix _).isInfix

theorem Unqualified.trimmed {name : String} (unqualified : Unqualified name) :
    ¬ hasSeparator (trimChars name.toList) = true := by
  rw [hasSeparator_iff]
  exact fun inside => unqualified (inside.trans (trimChars_isInfixOf _))

theorem conventional_eq {name : String} (unqualified : Unqualified name) :
    conventional name = defaultSpace ++ "::" ++ String.ofList (raised name) := by
  rw [conventional, if_neg unqualified.trimmed]
  rfl

theorem conventional_eq_iff {name other : String} (left : Unqualified name) (right : Unqualified other) :
    conventional name = conventional other ↔ raised name = raised other := by
  rw [conventional_eq left, conventional_eq right]
  constructor
  · intro same
    have spelled := congrArg String.toList same
    simp only [String.toList_append, String.toList_ofList] at spelled
    exact List.append_cancel_left spelled
  · intro same
    rw [same]

theorem eq_of_lone {c d : Char} {cs ds : List Char} (lone : c.toNat ∈ loneCapitals)
    (same : upperChar c ++ cs = upperChar d ++ ds) : d = c := by
  obtain ⟨e, more, became⟩ := List.exists_cons_of_ne_nil (upperChar_ne_nil d)
  rw [upperChar_loneCapital lone, became] at same
  obtain ⟨rfl, -⟩ := List.cons.inj same
  exact eq_of_upperChar_loneCapital lone became

theorem raise_eq_iff {c d : Char} {cs ds : List Char} (alike : lowerChar c ++ cs = lowerChar d ++ ds) :
    upperChar c ++ cs = upperChar d ++ ds ↔ c = d ∨ c.toNat ∉ loneCapitals ∧ d.toNat ∉ loneCapitals := by
  constructor
  · intro same
    by_cases loneC : c.toNat ∈ loneCapitals
    · exact .inl (eq_of_lone loneC same).symm
    by_cases loneD : d.toNat ∈ loneCapitals
    · exact .inl (eq_of_lone loneD same.symm)
    exact .inr ⟨loneC, loneD⟩
  · rintro (rfl | ⟨pairedC, pairedD⟩)
    · rw [List.append_cancel_left alike]
    · obtain ⟨x, loweredC, raisedC, -⟩ := exists_lowerChar pairedC
      obtain ⟨y, loweredD, raisedD, -⟩ := exists_lowerChar pairedD
      rw [loweredC, loweredD] at alike
      obtain ⟨sameFirst, sameRest⟩ := List.cons.inj alike
      rw [← raisedC, ← raisedD, sameFirst, show cs = ds from sameRest]

theorem raised_eq_iff {name other : String} (alike : canonical name = canonical other) :
    raised name = raised other ↔ Matched name other := by
  have same := congrArg String.toList alike
  rw [toList_canonical, toList_canonical] at same
  unfold raised Matched Lone initial?
  generalize trimChars name.toList = left at same ⊢
  generalize trimChars other.toList = right at same ⊢
  cases left with
  | nil =>
    cases right with
    | nil => simp
    | cons d ds => simp [lowerChar_ne_nil] at same
  | cons c cs =>
    cases right with
    | nil => simp [lowerChar_ne_nil] at same
    | cons d ds => simpa using raise_eq_iff same

theorem matched_iff {name other : String} (akin : Akin name other) :
    conventional name = conventional other ↔ Matched name other := by
  rw [conventional_eq_iff akin.left akin.right, raised_eq_iff akin.alike]

theorem hasSeparator_cons {c : Char} (apart : c ≠ ':') (cs : List Char) : hasSeparator (c :: cs) = hasSeparator cs := by
  rw [hasSeparator]
  rintro more rfl
  contradiction

theorem hasSeparator_append {cs : List Char} (apart : ∀ c ∈ cs, c ≠ ':') (ds : List Char) :
    hasSeparator (cs ++ ds) = hasSeparator ds := by
  induction cs with
  | nil => rfl
  | cons c rest ih =>
    rw [List.cons_append, hasSeparator_cons (apart c List.mem_cons_self)]
    exact ih fun x member => apart x (List.mem_cons_of_mem _ member)

theorem hasSeparator_lowerChar (c : Char) (cs : List Char) :
    hasSeparator (lowerChar c ++ cs) = hasSeparator (c :: cs) := by
  by_cases colon : c = ':'
  · rw [colon, show lowerChar ':' = [':'] by decide +kernel, List.singleton_append]
  · rw [hasSeparator_append fun x member => ne_colon_of_mem_lowerChar colon member, hasSeparator_cons colon]

theorem not_lone_of_initial? {name : String} {c : Char} (first : initial? name = some c)
    (paired : c.toNat ∉ loneCapitals) : ¬ Lone name := by
  rintro ⟨d, same, lone⟩
  rw [first] at same
  exact paired (Option.some.inj same ▸ lone)

theorem not_lone_canonical (name : String) : ¬ Lone (canonical name) := by
  rintro ⟨c, first, lone⟩
  rw [initial?, trimChars_canonical, toList_canonical] at first
  cases trimmed : trimChars name.toList with
  | nil => simp [trimmed] at first
  | cons d rest =>
    obtain ⟨e, more, lowered⟩ := List.exists_cons_of_ne_nil (lowerChar_ne_nil d)
    simp only [trimmed, lowered, List.cons_append, List.head?_cons, Option.mem_some_iff] at first
    have settled := lowerChar_lowered lowered
    rw [first] at settled
    exact head?_lowerChar_loneCapital lone (by rw [settled, List.head?_cons])

theorem unqualified_canonical {name : String} (unqualified : Unqualified name) : Unqualified (canonical name) := by
  have apart := unqualified.trimmed
  rw [Unqualified, ← hasSeparator_iff, toList_canonical]
  cases trimmed : trimChars name.toList with
  | nil => simp [hasSeparator]
  | cons c rest =>
    rw [trimmed] at apart
    rwa [hasSeparator_lowerChar]

theorem akin_canonical {name : String} (unqualified : Unqualified name) : Akin name (canonical name) :=
  ⟨(canonical_canonical name).symm, unqualified, unqualified_canonical unqualified⟩

theorem matched_canonical_iff (name : String) : Matched name (canonical name) ↔ ¬ Lone name := by
  constructor
  · rintro (same | ⟨paired, -⟩) lone
    · have settled := not_lone_canonical name
      rw [Lone, ← same] at settled
      exact settled lone
    · exact paired lone
  · exact fun paired => .inr ⟨paired, not_lone_canonical name⟩

end RuleName

namespace Registry

open RuleName

/-- The registry does not tell the names apart. -/
structure Alike (registry : Registry) (name other : String) : Prop where
  created : ∀ implementation, registry.create name implementation = registry.create other implementation
  contained : registry.contains name = registry.contains other

theorem typeReference_congr {name other : String} (same : conventional name = conventional other)
    (implementation : Option String) : typeReference name implementation = typeReference other implementation := by
  cases implementation with
  | none => exact same
  | some given => simp only [typeReference, same]

theorem typeReference_eq_iff (name other : String) (implementation : Option String) :
    typeReference name implementation = typeReference other implementation ↔
      conventional name = conventional other ∨
        ∃ given, implementation = some given ∧ Text.isBlankText given = false := by
  cases implementation with
  | none => simp [typeReference]
  | some given =>
    cases blank : Text.isBlankText given with
    | true => simp [typeReference_blank blank, blank]
    | false => simp [typeReference_given blank, blank]

theorem alike_of_matched {name other : String} (akin : Akin name other) (matched : Matched name other)
    (registry : Registry) : registry.Alike name other := by
  have same := (matched_iff akin).2 matched
  constructor
  · intro implementation
    simp only [create, akin.alike, typeReference_congr same]
  · simp only [contains, akin.alike, same]

theorem create_unlisted {history : List Enrolment} {name : String}
    (unlisted : (after history).components.get? (canonical name) = none) (implementation : Option String) :
    (∃ blueprint, ((after history).create name implementation).2 =
        .ok ⟨canonical name, typeReference name implementation, blueprint⟩) ∨
      ((after history).create name implementation).2 =
        .error (.creation (canonical name) (typeReference name implementation)) := by
  cases known : (after history).types.get? (typeReference name implementation) with
  | some found =>
    have latest := (get?_types_iff history _ found).1 known
    have entered : found.implementation = typeReference name implementation := latest.mem.2
    refine .inl ⟨found.blueprint, ?_⟩
    rw [(Finds.type unlisted known).create_eq, entered]
  | none => exact .inr (Lacks.create_eq ⟨unlisted, known⟩)

theorem create_unlisted_eq_iff {history : List Enrolment} {name other : String}
    (alike : canonical name = canonical other)
    (unlisted : (after history).components.get? (canonical name) = none) (implementation : Option String) :
    ((after history).create name implementation).2 = ((after history).create other implementation).2 ↔
      typeReference name implementation = typeReference other implementation := by
  constructor
  · intro same
    rcases create_unlisted unlisted implementation with ⟨blueprint, here⟩ | here <;>
      rcases create_unlisted (alike ▸ unlisted) implementation with ⟨blueprint', there⟩ | there <;>
      rw [here, there] at same
    · exact congrArg Resolved.implementation (Except.ok.inj same)
    · cases same
    · cases same
    · exact (Failure.creation.inj (Except.error.inj same)).2
  · intro same
    simp only [create, ← alike, same]

theorem create_eq_iff {name other : String} (akin : Akin name other) (history : List Enrolment)
    (implementation : Option String) :
    ((after history).create name implementation).2 = ((after history).create other implementation).2 ↔
      Matched name other ∨ (∃ c ∈ componentsOf history, canonical c.1 = canonical name) ∨
        ∃ given, implementation = some given ∧ Text.isBlankText given = false := by
  cases known : (after history).components.get? (canonical name) with
  | none =>
    have absent := (components_lack_iff history (canonical name)).1 known
    have unlisted : ¬ ∃ c ∈ componentsOf history, canonical c.1 = canonical name := by
      rintro ⟨c, entered, named⟩
      exact absent c entered named
    rw [create_unlisted_eq_iff akin.alike known, typeReference_eq_iff, matched_iff akin, or_iff_right unlisted]
  | some found =>
    obtain ⟨entered, latest⟩ := (get?_components_iff history _ found).1 known
    refine iff_of_true ?_ (.inr (.inl ⟨_, latest.mem⟩))
    rw [(Finds.component known).create_eq, (Finds.component (akin.alike ▸ known)).create_eq, akin.alike]

theorem forall_alike_iff {name other : String} (akin : Akin name other) :
    (∀ registry : Registry, registry.Alike name other) ↔ Matched name other := by
  refine ⟨fun alike => ?_, alike_of_matched akin⟩
  -- Where nothing is entered, the failure tells the reference.
  have created := congrArg Prod.snd ((alike (after [])).created none)
  exact (matched_iff akin).1 ((create_unlisted_eq_iff akin.alike rfl none).1 created)

theorem name_of_create {registry : Registry} {name : String} {implementation : Option String} {resolved : Resolved}
    (created : (registry.create name implementation).2 = .ok resolved) : resolved.name = canonical name := by
  rcases registry.finds_or_lacks name implementation with ⟨found, finds⟩ | lacks
  · rw [finds.create_eq] at created
    rw [← Except.ok.inj created]
  · rw [lacks.create_eq] at created
    cases created

end Registry

def Declaration.respelled (name other : String) (d : Declaration) : Declaration :=
  if d.name = name then { d with name := other } else d

namespace Enforcer

open RuleName

variable {enforcer : Enforcer} {name other : String}

theorem canonical_respelled (alike : canonical name = canonical other) (d : Declaration) :
    canonical (d.respelled name other).name = canonical d.name := by
  unfold Declaration.respelled
  split
  · next named => rw [named, alike]
  · rfl

theorem prepareOne_respelled (alike : enforcer.registry.Alike name other) (d : Declaration) :
    enforcer.prepareOne (d.respelled name other) = enforcer.prepareOne d := by
  unfold Declaration.respelled
  split
  · next named => simp only [prepareOne, named, alike.created]
  · rfl

theorem prepare_respelled (same : canonical name = canonical other) (alike : enforcer.registry.Alike name other)
    (declarations : List Declaration) :
    enforcer.prepare (declarations.map (Declaration.respelled name other)) = enforcer.prepare declarations := by
  induction declarations with
  | nil => rfl
  | cons d rest ih =>
    simp only [List.map_cons, prepare, ih, Options.leavesOut, canonical_respelled same, prepareOne_respelled alike]
    rfl

theorem run_respelled (same : canonical name = canonical other) (alike : enforcer.registry.Alike name other)
    (ctx : Context) (cache : Cache) (declarations : List Declaration) :
    enforcer.run ctx cache (declarations.map (Declaration.respelled name other)) =
      enforcer.run ctx cache declarations := by
  rw [run, run, prepare_respelled same alike]

end Enforcer

namespace Registry

open RuleName

/-- Names that differ in the case of their first letter are one name everywhere exactly if they are matched: to every
    registry, and so in every run. Others are one name where a component or a given type is what they resolve to. -/
theorem alike_iff_matched {name other : String} (akin : Akin name other) :
    ((∀ registry : Registry, registry.Alike name other) ↔ Matched name other) ∧
      (∀ history implementation,
        ((after history).create name implementation).2 = ((after history).create other implementation).2 ↔
          Matched name other ∨ (∃ c ∈ componentsOf history, canonical c.1 = canonical name) ∨
            ∃ given, implementation = some given ∧ Text.isBlankText given = false) ∧
      ((∀ registry : Registry, registry.Alike name (canonical name)) ↔ ¬ Lone name) ∧
      (∀ registry implementation resolved, (create registry name implementation).2 = .ok resolved →
        resolved.name = canonical name) ∧
      ∀ (enforcer : Enforcer) ctx cache declarations, Matched name other →
        enforcer.run ctx cache (declarations.map (Declaration.respelled name other)) =
          enforcer.run ctx cache declarations := by
  refine ⟨forall_alike_iff akin, create_eq_iff akin, ?_, fun _ _ _ => name_of_create, ?_⟩
  · rw [forall_alike_iff (akin_canonical akin.left), matched_canonical_iff]
  · intro enforcer ctx cache declarations matched
    exact Enforcer.run_respelled akin.alike (alike_of_matched akin matched enforcer.registry) ctx cache declarations

theorem alike_iff_matched_sizeLimit :
    Akin "SizeLimit" " sizeLimit" ∧ (∀ registry : Registry, registry.Alike "SizeLimit" " sizeLimit") ∧
      ∀ registry : Registry, registry.Alike "SizeLimit" (canonical "SizeLimit") := by
  have akin : Akin "SizeLimit" " sizeLimit" := ⟨by decide +kernel, by decide, by decide⟩
  obtain ⟨everywhere, -, canonically, -⟩ := alike_iff_matched akin
  have left : ¬ Lone "SizeLimit" := not_lone_of_initial? (c := 'S') (by decide) (by decide)
  have right : ¬ Lone " sizeLimit" := not_lone_of_initial? (c := 's') (by decide) (by decide)
  exact ⟨akin, everywhere.2 (.inr ⟨left, right⟩), canonically.2 left⟩

/-- The sign of the unit kelvin has the lower-case form k, whose upper-case form is the letter K. -/
theorem not_alike_kelvin :
    let plain := Blueprint.ofRule (Rule.plain fun _ => .silent .passed)
    let history := [.type ⟨"enforcer_rules::Key", "a key", plain⟩]
    let registry := after history
    Akin "key" "\u212aey" ∧
      (registry.create "key" none).2 = .ok ⟨"key", "enforcer_rules::Key", plain⟩ ∧
      (registry.create "\u212aey" none).2 = .error (.creation "key" "enforcer_rules::\u212aey") ∧
      registry.contains "key" = true ∧ registry.contains "\u212aey" = false ∧
      ¬ registry.Alike "key" "\u212aey" := by
  intro plain history registry
  have key : canonical "key" = "key" := by decide +kernel
  have kelvin : canonical "\u212aey" = "key" := by decide +kernel
  have listed : conventional "key" = "enforcer_rules::Key" := by decide +kernel
  have unlisted : conventional "\u212aey" = "enforcer_rules::\u212aey" := by decide +kernel
  have known : registry.contains "key" = true := by decide +kernel
  have unknown : registry.contains "\u212aey" = false := by decide +kernel
  refine ⟨⟨key.trans kelvin.symm, by decide, by decide⟩, ?_, ?_, known, unknown, ?_⟩
  · have latest : Latest (·.implementation = conventional "key") (typesOf history)
        ⟨"enforcer_rules::Key", "a key", plain⟩ := ⟨[], [], rfl, listed.symm, by rintro t ⟨⟩⟩
    have resolves := (create_iff history "key" none _).2 (.type (by rintro c ⟨⟩) .unnamed latest)
    rwa [key] at resolves
  · have absent : ∀ t ∈ typesOf history, t.implementation ≠ conventional "\u212aey" := by
      intro t entered
      rw [unlisted, List.mem_singleton.1 entered]
      decide
    have fails := (create_iff history "\u212aey" none _).2 (.unknown (by rintro c ⟨⟩) .unnamed absent)
    rwa [kelvin, unlisted] at fails
  · intro alike
    have same := alike.contained
    rw [known, unknown] at same
    cases same

end Registry

end BuildGate
