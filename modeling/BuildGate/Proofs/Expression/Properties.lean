import Mathlib.Data.String.Basic
import BuildGate.Expression.Scope
import BuildGate.Proofs.Dict.Lookup

namespace BuildGate.Expression

theorem lt_map_of_ne {cs : List Char} (changed : cs.map (fun c => if c = '.' ∨ c = '-' then '_' else c) ≠ cs) :
    cs < cs.map fun c => if c = '.' ∨ c = '-' then '_' else c := by
  induction cs with
  | nil => exact absurd rfl changed
  | cons c rest ih =>
    rw [List.map_cons, List.cons_lt_cons_iff]
    by_cases marked : c = '.' ∨ c = '-'
    · left
      rcases marked with rfl | rfl <;> decide
    · right
      simp only [List.map_cons, marked, ↓reduceIte, ne_eq, List.cons.injEq, true_and] at changed ⊢
      exact ih changed

theorem lt_of_identifierOf {key other : String} (same : identifierOf other = key) (apart : other ≠ key) :
    other < key := by
  subst same
  rw [String.lt_iff_toList_lt, identifierOf, String.toList_ofList]
  apply lt_map_of_ne
  intro unchanged
  rw [identifierOf, unchanged, String.ofList_toList] at apart
  exact apart rfl

theorem identifierOf_eq_self {key : String} (points : '.' ∉ key.toList) (hyphens : '-' ∉ key.toList) :
    identifierOf key = key := by
  have kept : key.toList.map (fun c => if c = '.' ∨ c = '-' then '_' else c) = key.toList.map id := by
    apply List.map_congr_left
    rintro c member
    have notPoint : c ≠ '.' := fun same => points (same ▸ member)
    have notHyphen : c ≠ '-' := fun same => hyphens (same ▸ member)
    simp [notPoint, notHyphen]
  rw [identifierOf, kept, List.map_id, String.ofList_toList]

namespace Scope

def add (scope : Scope) (entry : String × String) : Scope :=
  scope.define (identifierOf entry.1) (Datum.ofProperty entry.2)

theorem ofProperties_eq (properties : Dict String) : ofProperties properties = properties.entries.foldl add ∅ := rfl

/-- Nothing stands in the way of an entry: its name is free, or holds a datum of the same kind. -/
def Takes (scope : Scope) (entry : String × String) : Prop :=
  ∀ held, scope.get? (identifierOf entry.1) = some held → held.kind = (Datum.ofProperty entry.2).kind

theorem get?_add_other (scope : Scope) {entry : String × String} {name : String}
    (apart : identifierOf entry.1 ≠ name) : (scope.add entry).get? name = scope.get? name := by
  have other : name ≠ identifierOf entry.1 := fun same => apart same.symm
  unfold add define
  split
  · split
    · rw [Dict.get?_insert, if_neg other]
    · rfl
  · rw [Dict.get?_insert, if_neg other]

theorem get?_add_iff (scope : Scope) (entry : String × String) :
    (scope.add entry).get? (identifierOf entry.1) = some (Datum.ofProperty entry.2) ↔ scope.Takes entry := by
  unfold add define Takes
  cases found : scope.get? (identifierOf entry.1) with
  | none => simp [Dict.get?_insert]
  | some held =>
    simp only [Option.some.injEq, forall_eq']
    by_cases alike : held.kind = (Datum.ofProperty entry.2).kind
    · simp [alike, Dict.get?_insert]
    · simp only [alike, ↓reduceIte, found, Option.some.injEq, iff_false]
      exact fun same => alike (congrArg Datum.kind same)

theorem kind_add (scope : Scope) (entry : String × String) :
    ((scope.add entry).get? (identifierOf entry.1)).map Datum.kind =
      ((scope.get? (identifierOf entry.1)).map Datum.kind).or (some (Datum.ofProperty entry.2).kind) := by
  unfold add define
  cases found : scope.get? (identifierOf entry.1) with
  | none => simp [Dict.get?_insert]
  | some held =>
    by_cases alike : held.kind = (Datum.ofProperty entry.2).kind
    · simp [alike, Dict.get?_insert]
    · simp [alike, found]

theorem get?_foldl_add_other {entries : List (String × String)} {name : String}
    (apart : ∀ entry ∈ entries, identifierOf entry.1 ≠ name) (scope : Scope) :
    (entries.foldl add scope).get? name = scope.get? name := by
  induction entries generalizing scope with
  | nil => rfl
  | cons entry rest ih =>
    have later := ih (fun e member => apart e (List.mem_cons_of_mem _ member)) (scope.add entry)
    rw [List.foldl_cons, later, get?_add_other scope (apart entry List.mem_cons_self)]

def leader? (entries : List (String × String)) (name : String) : Option (String × String) :=
  entries.find? fun entry => identifierOf entry.1 = name

theorem kind_foldl_add (entries : List (String × String)) (scope : Scope) (name : String) :
    ((entries.foldl add scope).get? name).map Datum.kind =
      ((scope.get? name).map Datum.kind).or
        ((leader? entries name).map fun entry => (Datum.ofProperty entry.2).kind) := by
  induction entries generalizing scope with
  | nil => simp [leader?]
  | cons entry rest ih =>
    rw [List.foldl_cons, ih]
    by_cases same : identifierOf entry.1 = name
    · have first : leader? (entry :: rest) name = some entry := by simp [leader?, same]
      rw [first, ← same, kind_add]
      cases (scope.get? (identifierOf entry.1)).map Datum.kind <;> rfl
    · have later : leader? (entry :: rest) name = leader? rest name := by simp [leader?, same]
      rw [later, get?_add_other scope same]

theorem takes_iff (before after : List (String × String)) (entry : String × String) :
    (before.foldl add ∅).Takes entry ↔
      ∀ first, leader? (before ++ entry :: after) (identifierOf entry.1) = some first →
        (Datum.ofProperty first.2).kind = (Datum.ofProperty entry.2).kind := by
  have kinds := kind_foldl_add before ∅ (identifierOf entry.1)
  simp only [Dict.get?_empty, Option.map_none, Option.none_or] at kinds
  unfold Takes
  cases ahead : leader? before (identifierOf entry.1) with
  | none =>
    have leads : leader? (before ++ entry :: after) (identifierOf entry.1) = some entry := by
      unfold leader? at ahead ⊢
      simp [List.find?_append, ahead]
    have free : (before.foldl add ∅).get? (identifierOf entry.1) = none := by simpa [ahead] using kinds
    simp [free, leads]
  | some first =>
    have leads : leader? (before ++ entry :: after) (identifierOf entry.1) = some first := by
      unfold leader? at ahead ⊢
      simp [List.find?_append, ahead]
    rw [ahead, Option.map_some, Option.map_eq_some_iff] at kinds
    obtain ⟨held, found, kind⟩ := kinds
    simp [found, leads, kind]

theorem mem_of_leader? {entries : List (String × String)} {name : String} {first : String × String}
    (leads : leader? entries name = some first) : first ∈ entries ∧ identifierOf first.1 = name :=
  ⟨List.mem_of_find?_eq_some leads, by simpa using List.find?_some leads⟩

theorem exists_leader? {entries : List (String × String)} {entry : String × String} (member : entry ∈ entries) :
    ∃ first, leader? entries (identifierOf entry.1) = some first := by
  rw [← Option.isSome_iff_exists, leader?, List.find?_isSome]
  exact ⟨entry, member, by simp⟩

def Undisputed (properties : Dict String) : Prop :=
  ∀ before entry after, properties.entries = before ++ entry :: after → (before.foldl add ∅).Takes entry

theorem undisputed_iff (properties : Dict String) :
    Undisputed properties ↔ ∀ entry ∈ properties.entries, ∀ other ∈ properties.entries,
      identifierOf entry.1 = identifierOf other.1 →
        (Datum.ofProperty entry.2).kind = (Datum.ofProperty other.2).kind := by
  constructor
  · intro undisputed
    have led : ∀ entry ∈ properties.entries, ∀ first,
        leader? properties.entries (identifierOf entry.1) = some first →
          (Datum.ofProperty first.2).kind = (Datum.ofProperty entry.2).kind := by
      intro entry member
      obtain ⟨before, after, split⟩ := List.append_of_mem member
      rw [split]
      exact (takes_iff before after entry).1 (undisputed before entry after split)
    intro entry here other there same
    obtain ⟨first, leads⟩ := exists_leader? here
    exact (led entry here first leads).symm.trans (led other there first (same ▸ leads))
  · intro alike before entry after split
    have member : entry ∈ properties.entries := by simp [split]
    rw [takes_iff before after entry, ← split]
    intro first leads
    obtain ⟨listed, same⟩ := mem_of_leader? leads
    exact alike first listed entry member same

theorem get?_ofProperties_iff {properties : Dict String} {key raw : String}
    (listed : properties.get? key = some raw) (unchanged : identifierOf key = key) :
    (ofProperties properties).get? key = some (Datum.ofProperty raw) ↔
      ∀ first, leader? properties.entries key = some first →
        (Datum.ofProperty first.2).kind = (Datum.ofProperty raw).kind := by
  obtain ⟨before, after, split⟩ := List.append_of_mem ((properties.mem_entries_iff key raw).2 listed)
  have apart : ∀ entry ∈ after, identifierOf entry.1 ≠ key := by
    have sorted := properties.sorted
    rw [split, List.map_append, List.map_cons] at sorted
    intro entry member same
    have later : key < entry.1 := by
      have tail := (List.pairwise_append.1 sorted).2.1
      exact (List.pairwise_cons.1 tail).1 entry.1 (List.mem_map_of_mem member)
    have earlier := lt_of_identifierOf same (ne_of_gt later)
    exact lt_asymm later earlier
  have taken := get?_add_iff (before.foldl add ∅) (key, raw)
  rw [takes_iff before after, ← split] at taken
  simp only [unchanged] at taken
  rw [ofProperties_eq, split, List.foldl_append, List.foldl_cons, get?_foldl_add_other apart, ← split]
  exact taken

/-- A property whose key is an identifier has its own datum under that name if and only if the first key
    that comes to the name brings the same kind; and no property is refused if and only if all keys that
    come to one name bring one kind. -/
theorem held_iff_first_alike (properties : Dict String) :
    (∀ key raw, properties.get? key = some raw → '.' ∉ key.toList → '-' ∉ key.toList →
      ((ofProperties properties).get? key = some (Datum.ofProperty raw) ↔
        ∀ first, properties.entries.find? (fun entry => identifierOf entry.1 = key) = some first →
          (Datum.ofProperty first.2).kind = (Datum.ofProperty raw).kind)) ∧
      (Undisputed properties ↔ ∀ key other raw value, properties.get? key = some raw →
        properties.get? other = some value → identifierOf key = identifierOf other →
          (Datum.ofProperty raw).kind = (Datum.ofProperty value).kind) := by
  constructor
  · intro key raw listed points hyphens
    exact get?_ofProperties_iff listed (identifierOf_eq_self points hyphens)
  · rw [undisputed_iff]
    constructor
    · intro alike key other raw value listed listed' same
      exact alike (key, raw) ((properties.mem_entries_iff _ _).2 listed) (other, value)
        ((properties.mem_entries_iff _ _).2 listed') same
    · rintro alike ⟨key, raw⟩ here ⟨other, value⟩ there same
      exact alike key other raw value ((properties.mem_entries_iff _ _).1 here)
        ((properties.mem_entries_iff _ _).1 there) same

theorem held_iff_first_alike_sizes :
    let properties := ((∅ : Dict String).insert "max.size" "10").insert "max_size" "20"
    properties.get? "max_size" = some "20" ∧ '.' ∉ "max_size".toList ∧ '-' ∉ "max_size".toList ∧
      (ofProperties properties).get? "max_size" = some (Datum.ofProperty "20") ∧ Undisputed properties := by
  intro properties
  have listed : properties.get? "max_size" = some "20" := rfl
  have points : '.' ∉ "max_size".toList := by decide
  have hyphens : '-' ∉ "max_size".toList := by decide
  have numbers : ∀ key raw, properties.get? key = some raw → (Datum.ofProperty raw).kind = .int := by
    intro key raw found
    simp only [properties, Dict.get?_insert, Dict.get?_empty] at found
    split at found
    · cases found
      rfl
    · split at found
      · cases found
        rfl
      · cases found
  obtain ⟨held, undisputed⟩ := held_iff_first_alike properties
  refine ⟨listed, points, hyphens, (held "max_size" "20" listed points hyphens).2 ?_, undisputed.2 ?_⟩
  · rintro ⟨key, value⟩ leads
    have found := (properties.mem_entries_iff key value).1 (List.mem_of_find?_eq_some leads)
    exact numbers key value found
  · intro key other raw value found found' _
    exact (numbers key raw found).trans (numbers other value found').symm

/-- A number that comes to a name first keeps a text out of it. -/
theorem not_held_after_number :
    let properties := ((∅ : Dict String).insert "a.b" "1").insert "a_b" "text"
    properties.get? "a_b" = some "text" ∧ '.' ∉ "a_b".toList ∧ '-' ∉ "a_b".toList ∧
      (ofProperties properties).get? "a_b" = some (.int 1) ∧
      (ofProperties properties).get? "a_b" ≠ some (Datum.ofProperty "text") ∧ ¬ Undisputed properties := by
  intro properties
  have number : (ofProperties properties).get? "a_b" = some (.int 1) := rfl
  have text : Datum.ofProperty "text" = .text "text" := rfl
  refine ⟨rfl, by decide, by decide, number, ?_, fun undisputed => ?_⟩
  · rw [number, text]
    nofun
  · have one : ("a.b", "1") ∈ properties.entries := by decide
    have other : ("a_b", "text") ∈ properties.entries := by decide
    have alike := (undisputed_iff properties).1 undisputed _ one _ other (by decide)
    rw [text] at alike
    cases alike

end Scope

end BuildGate.Expression
