import BuildGate.Proofs.Rule.FilePresence
import BuildGate.Proofs.Text.Ended

namespace BuildGate

theorem Context.resolve_absolute {path : String} (absolute : Path.isAbsolute path = true) (ctx : Context) :
    ctx.resolve path = path := by
  simp [resolve, Path.join, absolute]

namespace FileList

def zeros (name : String) : Nat := name.toList.count '\x00'

theorem digestInput_eq (paths : List String) :
    digestInput paths = (Text.ended '\x00' (paths.map String.toList)).flatMap String.utf8EncodeChar := by
  induction paths with
  | nil => rfl
  | cons path rest ih =>
    have bytes : path.toUTF8.data.toList = path.toList.flatMap String.utf8EncodeChar := by
      rw [String.toUTF8_eq_toByteArray, ← String.utf8Encode_toList]
      simp [List.utf8Encode]
    have zero : String.utf8EncodeChar '\x00' = [0] := by decide
    rw [List.map_cons, Text.ended_cons, List.flatMap_append, List.flatMap_cons, zero, ← ih, ← bytes]
    simp [digestInput]

theorem digestInput_eq_iff (paths others : List String) :
    digestInput paths = digestInput others ↔
      Text.ended '\x00' (paths.map String.toList) = Text.ended '\x00' (others.map String.toList) := by
  rw [digestInput_eq, digestInput_eq]
  constructor
  · intro same
    have encoded := congrArg List.toByteArray same
    change List.utf8Encode _ = List.utf8Encode _ at encoded
    rw [← String.toByteArray_ofList, ← String.toByteArray_ofList, String.toByteArray_inj] at encoded
    exact String.ofList_injective encoded
  · intro same
    rw [same]

theorem names_eq_iff (paths others : List String) :
    paths = others ↔ digestInput paths = digestInput others ∧ paths.map zeros = others.map zeros := by
  constructor
  · rintro rfl
    exact ⟨rfl, rfl⟩
  · rintro ⟨same, counts⟩
    apply List.map_injective_iff.2 fun _ _ => String.toList_inj.1
    refine Text.ended_inj ?_ ((digestInput_eq_iff _ _).1 same)
    rw [List.map_map, List.map_map]
    exact counts

theorem names_eq_of_zeroless {paths others : List String} (same : digestInput paths = digestInput others)
    (zeroless : ∀ name ∈ paths ++ others, '\x00' ∉ name.toList) : paths = others := by
  apply List.map_injective_iff.2 fun _ _ => String.toList_inj.1
  apply Text.ended_inj_of_notMem _ _ ((digestInput_eq_iff _ _).1 same)
  · intro cs member
    obtain ⟨name, listed, rfl⟩ := List.mem_map.1 member
    exact zeroless name (List.mem_append_left _ listed)
  · intro cs member
    obtain ⟨name, listed, rfl⟩ := List.mem_map.1 member
    exact zeroless name (List.mem_append_right _ listed)

theorem of_cacheId {l : FileList} (identified : l.cacheId ≠ none) :
    none ∉ l.entries ∧ l.names ≠ [] ∧ ∀ name ∈ l.names, Path.isAbsolute name = true := by
  unfold cacheId at identified
  split at identified
  · exact absurd rfl identified
  · rename_i digested
    simpa [and_assoc] using digested

theorem entries_of_names {l : FileList} (given : none ∉ l.entries) : l.entries = l.names.map some := by
  unfold names
  generalize l.entries = entries at given
  induction entries with
  | nil => rfl
  | cons entry rest ih =>
    cases entry with
    | none => exact absurd List.mem_cons_self given
    | some name =>
      have kept : (some name :: rest).filterMap id = name :: rest.filterMap id := rfl
      rw [kept, List.map_cons, ← ih fun member => given (List.mem_cons_of_mem _ member)]

theorem passed_iff {l : FileList} (identified : l.cacheId ≠ none) (e : Expectation) (log : Option RuleLog)
    (ctx : Context) :
    ((l.rule e log).run ctx).verdict = .passed ↔
      ∀ name ∈ l.names, e.isSatisfied ctx.host.files name = true := by
  obtain ⟨given, some, absolute⟩ := of_cacheId identified
  have accepted : ¬ l.Refused := by
    rintro ⟨-, empty | ungiven⟩
    · simp [names, entries, empty] at some
    · exact given ((none_mem_entries_iff l).2 ungiven)
  have offending : l.offending e ctx = l.names.filter fun path => !e.isSatisfied ctx.host.files path := by
    have resolved : l.names.map ctx.resolve = l.names.map id :=
      List.map_congr_left fun name member => ctx.resolve_absolute (absolute name member)
    change (l.names.map ctx.resolve).filter _ = _
    rw [resolved, List.map_id]
  change l.verdict e ctx = .passed ↔ _
  rw [(verdict_reports accepted e ctx).passed_iff, offending]
  simp [List.filter_eq_nil_iff]

/-- The bytes that are digested for a rule tell its list up to the zero characters in the names, and rules
    with one list pass or do not pass alike in every module. -/
theorem same_check_of_same_bytes {l m : FileList} {e : Expectation} {log other : Option RuleLog}
    (left : (l.rule e log).cacheId ≠ none) (right : (m.rule e other).cacheId ≠ none)
    (same : digestInput l.names = digestInput m.names) :
    (l.entries = m.entries ↔ l.names.map zeros = m.names.map zeros) ∧
      ((∀ name ∈ l.names ++ m.names, '\x00' ∉ name.toList) → l.entries = m.entries) ∧
      (l.entries = m.entries → ∀ here there : Context, here.host.files = there.host.files →
        (((l.rule e log).run here).verdict = .passed ↔ ((m.rule e other).run there).verdict = .passed)) := by
  have entries : l.entries = m.entries ↔ l.names = m.names := by
    constructor
    · intro listed
      rw [names, names, listed]
    · intro named
      rw [entries_of_names (of_cacheId left).1, entries_of_names (of_cacheId right).1, named]
  refine ⟨?_, ?_, ?_⟩
  · rw [entries, names_eq_iff]
    exact and_iff_right same
  · intro zeroless
    exact entries.2 (names_eq_of_zeroless same zeroless)
  · intro listed here there files
    rw [passed_iff left, passed_iff right, entries.1 listed, files]

theorem same_check_of_same_bytes_hosts :
    let l : FileList := .ofNames ["/etc/hosts"]
    let m : FileList := { l with files := [some " /etc/hosts "], allowNulls := true, message := some "missing" }
    (l.rule .present none).cacheId ≠ none ∧ (m.rule .present none).cacheId ≠ none ∧
      digestInput l.names = digestInput m.names ∧ l.entries = m.entries := by
  intro l m
  have left : (l.rule .present none).cacheId ≠ none := by decide
  have right : (m.rule .present none).cacheId ≠ none := by decide
  have same : digestInput l.names = digestInput m.names := by decide
  exact ⟨left, right, same, (same_check_of_same_bytes left right same).2.1 (by decide)⟩

/-- A zero character in a name is taken for the end of one. -/
theorem not_same_check_zero :
    let joined : FileList := .ofNames ["/\x00/"]
    let parted : FileList := .ofNames ["/", "/"]
    let root : FileSystem := ⟨"/", fun path => if path = "/" then some .directory else none⟩
    let ctx := Context.new ⟨root, ∅⟩ Context.defaultBase
    (joined.rule .present none).cacheId ≠ none ∧ (parted.rule .present none).cacheId ≠ none ∧
      digestInput joined.names = digestInput parted.names ∧ joined.entries ≠ parted.entries ∧
      ((parted.rule .present none).run ctx).verdict = .passed ∧
      ((joined.rule .present none).run ctx).verdict ≠ .passed := by
  decide

end FileList

end BuildGate
