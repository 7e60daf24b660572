import BuildGate.Enforcement.Declaration
import BuildGate.Proofs.Document.Decoders
import BuildGate.Proofs.Document.Finite
import BuildGate.Proofs.Dict.Latest

namespace BuildGate.Declaration

def isParameter (key : String) : Bool := key ≠ "name" ∧ key ≠ "implementation"

def parametersOf (fields : List (String × Value)) : List (String × Value) :=
  (fields.filter fun entry => isParameter entry.1).map fun entry => (entry.1, entry.2.finite)

structure Adds (found : Partial) (fields : List (String × Value)) (result : Partial) : Prop where
  name : (fields.lookup "name").elim (result.name = found.name)
    fun v => ∃ content, v = .text content ∧ result.name = some content
  implementation : (fields.lookup "implementation").elim (result.implementation = found.implementation)
    fun v => ∃ content, Decode.optional Decode.text v = .ok content ∧ result.implementation = some content
  config : result.config = found.config ++ parametersOf fields

variable {found result : Partial} {key : String} {v : Value} {rest : List (String × Value)}

theorem readFields_name_iff : readFields found (("name", v) :: rest) = .ok result ↔
    ∃ content, v = .text content ∧ readFields { found with name := some content } rest = .ok result := by
  cases v with
  | text content => simp [readFields, Decode.text, Except.mapError, bind, Except.bind]
  | _ => simp [readFields, Decode.text, Decode.mistyped, Decode.fail, Except.mapError, bind, Except.bind]

theorem readFields_implementation_iff : readFields found (("implementation", v) :: rest) = .ok result ↔
    ∃ content, Decode.optional Decode.text v = .ok content ∧
      readFields { found with implementation := some content } rest = .ok result := by
  cases decoded : Decode.optional Decode.text v <;>
    simp [readFields, decoded, Except.mapError, bind, Except.bind]

theorem readFields_parameter (other : isParameter key = true) : readFields found ((key, v) :: rest) =
    readFields { found with config := found.config ++ [(key, v.finite)] } rest := by
  simp only [isParameter, ne_eq, decide_eq_true_eq] at other
  rw [readFields, if_neg other.1, if_neg other.2]

theorem eq_of_not_isParameter (own : ¬ isParameter key = true) : key = "name" ∨ key = "implementation" := by
  simpa [isParameter, or_iff_not_imp_left] using own

theorem adds_name_iff (absent : rest.lookup "name" = none) : Adds found (("name", v) :: rest) result ↔
    ∃ content, v = .text content ∧ Adds { found with name := some content } rest result := by
  constructor
  · rintro ⟨named, implemented, config⟩
    obtain ⟨content, rfl, held⟩ : ∃ content, v = .text content ∧ result.name = some content := by
      simpa [Dict.lookup_entry] using named
    exact ⟨content, rfl, by rwa [absent], by simpa [Dict.lookup_entry] using implemented, config⟩
  · rintro ⟨content, rfl, named, implemented, config⟩
    rw [absent] at named
    exact ⟨by simpa [Dict.lookup_entry] using named, by simpa [Dict.lookup_entry] using implemented, config⟩

theorem adds_implementation_iff (absent : rest.lookup "implementation" = none) :
    Adds found (("implementation", v) :: rest) result ↔ ∃ content, Decode.optional Decode.text v = .ok content ∧
      Adds { found with implementation := some content } rest result := by
  constructor
  · rintro ⟨named, implemented, config⟩
    obtain ⟨content, decoded, held⟩ : ∃ content, Decode.optional Decode.text v = .ok content ∧
        result.implementation = some content := by
      simpa [Dict.lookup_entry] using implemented
    exact ⟨content, decoded, by simpa [Dict.lookup_entry] using named, by rwa [absent], config⟩
  · rintro ⟨content, decoded, named, implemented, config⟩
    rw [absent] at implemented
    exact ⟨by simpa [Dict.lookup_entry] using named,
      by simpa [Dict.lookup_entry] using ⟨content, decoded, implemented⟩, config⟩

theorem adds_parameter_iff (other : isParameter key = true) : Adds found ((key, v) :: rest) result ↔
    Adds { found with config := found.config ++ [(key, v.finite)] } rest result := by
  have name : "name" ≠ key := by
    rintro rfl
    simp [isParameter] at other
  have implementation : "implementation" ≠ key := by
    rintro rfl
    simp [isParameter] at other
  have listed : found.config ++ parametersOf ((key, v) :: rest) =
      found.config ++ [(key, v.finite)] ++ parametersOf rest := by
    simp [parametersOf, other]
  constructor
  · rintro ⟨named, implemented, config⟩
    exact ⟨by simpa [Dict.lookup_entry, name] using named,
      by simpa [Dict.lookup_entry, implementation] using implemented, config.trans listed⟩
  · rintro ⟨named, implemented, config⟩
    exact ⟨by simpa [Dict.lookup_entry, name] using named,
      by simpa [Dict.lookup_entry, implementation] using implemented, config.trans listed.symm⟩

theorem adds_nil_iff : Adds found [] result ↔ found = result := by
  constructor
  · rintro ⟨named, implemented, config⟩
    obtain ⟨name, implementation, config⟩ := found
    obtain ⟨name', implementation', config'⟩ := result
    simp_all [parametersOf]
  · rintro rfl
    exact ⟨rfl, rfl, by simp [parametersOf]⟩

theorem readFields_iff {fields : List (String × Value)} (distinct : (fields.map Prod.fst).Nodup) :
    readFields found fields = .ok result ↔ Adds found fields result := by
  induction fields generalizing found with
  | nil => rw [readFields, Except.ok.injEq, adds_nil_iff]
  | cons entry rest ih =>
    obtain ⟨key, v⟩ := entry
    obtain ⟨single, tail⟩ := List.nodup_cons.1 distinct
    have absent : rest.lookup key = none := by
      rw [List.lookup_eq_none_iff]
      intro other member
      exact bne_iff_ne.2 fun same => single (List.mem_map.2 ⟨other, member, same.symm⟩)
    by_cases other : isParameter key = true
    · rw [readFields_parameter other, adds_parameter_iff other, ih tail]
    · rcases eq_of_not_isParameter other with rfl | rfl
      · simp only [readFields_name_iff, adds_name_iff absent, ih tail]
      · simp only [readFields_implementation_iff, adds_implementation_iff absent, ih tail]

def parameters (fields : Dict Value) : Params := (fields.filterKeys isParameter).mapValues Value.finite

theorem parameters_eq_ofList (fields : Dict Value) : parameters fields = .ofList (parametersOf fields.entries) :=
  (Dict.ofList_entries (parameters fields)).symm

theorem decode_eq_of_readFields {fields : Dict Value} {content : String}
    (read : readFields ⟨none, none, []⟩ fields.entries = .ok result) (named : result.name = some content) :
    decode (.ofDict fields) = .ok ⟨content, result.implementation.getD none, .ofList result.config⟩ := by
  rw [Value.ofDict, decode, read]
  simp only [bind, Except.bind, named]
  rfl

theorem decode_ok_iff (fields : Dict Value) (d : Declaration) :
    decode (.ofDict fields) = .ok d ↔ fields.get? "name" = some (.text d.name) ∧
      (fields.get? "implementation").elim (.ok none) (Decode.optional Decode.text) = .ok d.implementation ∧
      d.config = parameters fields := by
  obtain ⟨name, implementation, config⟩ := d
  constructor
  · intro decoded
    cases read : readFields ⟨none, none, []⟩ fields.entries with
    | error e => simp [decode, Value.ofDict, read, bind, Except.bind] at decoded
    | ok result =>
      obtain ⟨named, implemented, listed⟩ := (readFields_iff fields.keys_nodup).1 read
      cases held : result.name with
      | none => simp [decode, Value.ofDict, read, held, Decode.fail, bind, Except.bind] at decoded
      | some content =>
        rw [decode_eq_of_readFields read held] at decoded
        obtain ⟨rfl, rfl, rfl⟩ := Declaration.mk.inj (Except.ok.inj decoded)
        rw [parameters_eq_ofList, listed]
        refine ⟨?_, ?_, rfl⟩
        · rw [held] at named
          rw [Dict.get?]
          cases given : fields.entries.lookup "name" with
          | none => simp [given] at named
          | some v => simpa [given] using named
        · rw [Dict.get?]
          cases given : fields.entries.lookup "implementation" with
          | none =>
            have unset : result.implementation = none := by simpa [given] using implemented
            simp [unset]
          | some v =>
            obtain ⟨content, decoded, held⟩ : ∃ content, Decode.optional Decode.text v = .ok content ∧
                result.implementation = some content := by
              simpa [given] using implemented
            simpa [held] using decoded
  · rintro ⟨named, implemented, rfl⟩
    let result : Partial :=
      ⟨some name, (fields.get? "implementation").map fun _ => implementation, parametersOf fields.entries⟩
    have adds : Adds ⟨none, none, []⟩ fields.entries result := by
      refine ⟨?_, ?_, rfl⟩
      · rw [← Dict.get?, named]
        exact ⟨name, rfl, rfl⟩
      · rw [← Dict.get?]
        cases given : fields.get? "implementation" with
        | none => simp [result, given]
        | some v => simpa [result, given] using implemented
    rw [decode_eq_of_readFields ((readFields_iff fields.keys_nodup).2 adds) rfl, ← parameters_eq_ofList]
    cases given : fields.get? "implementation" with
    | none =>
      have unset : implementation = none := by simpa [given, eq_comm] using implemented
      simp [result, given, unset]
    | some v => simp [result, given]

theorem get?_parameters (fields : Dict Value) (key : String) :
    (parameters fields).get? key = if isParameter key then (fields.get? key).map Value.finite else none := by
  rw [parameters, Dict.get?_mapValues, Dict.get?_filterKeys]
  split <;> rfl

/-- The parameters do not take the place of the name or the implementation, and hold proper numbers only. -/
def Proper (d : Declaration) : Prop :=
  ∀ key v, d.config.get? key = some v → isParameter key = true ∧ v.finite = v

theorem Proper.lacks {d : Declaration} (proper : d.Proper) {key : String} (own : isParameter key = false) :
    d.config.get? key = none := by
  cases given : d.config.get? key with
  | none => rfl
  | some v => simp [(proper key v given).1] at own

theorem proper_of_decode {fields : Dict Value} {d : Declaration} (decoded : decode (.ofDict fields) = .ok d) :
    d.Proper := by
  intro key v given
  rw [((decode_ok_iff fields d).1 decoded).2.2, get?_parameters] at given
  split at given
  · obtain ⟨w, -, rfl⟩ := Option.map_eq_some_iff.1 given
    exact ⟨‹_›, Value.finite_finite w⟩
  · cases given

def record (d : Declaration) : Dict Value :=
  let parts : Dict Value := (∅ : Dict Value).insert "name" (.text d.name)
  (match d.implementation with
    | some implementation => parts.insert "implementation" (.text implementation)
    | none => parts).insertAll d.config.entries

theorem toValue_eq (d : Declaration) : d.toValue = .ofDict d.record := rfl

theorem get?_record (d : Declaration) (key : String) :
    d.record.get? key = (d.config.get? key).or
      (if key = "implementation" then d.implementation.map .text
        else if key = "name" then some (.text d.name) else none) := by
  rw [record, Dict.get?_insertAll_entries]
  cases d.implementation with
  | none =>
    by_cases same : key = "implementation"
    · subst same
      simp [Dict.get?_insert]
    · simp [Dict.get?_insert, same]
  | some implementation => simp [Dict.get?_insert]

theorem Proper.decode_toValue {d : Declaration} (proper : d.Proper) : decode d.toValue = .ok d := by
  rw [toValue_eq, decode_ok_iff]
  refine ⟨?_, ?_, ?_⟩
  · rw [get?_record, proper.lacks (by decide)]
    rfl
  · rw [get?_record, proper.lacks (by decide)]
    cases d.implementation <;> rfl
  · apply Dict.ext_get?
    intro key
    rw [get?_parameters, get?_record]
    cases own : isParameter key with
    | false => simp [proper.lacks own]
    | true =>
      simp only [isParameter, ne_eq, decide_eq_true_eq] at own
      cases given : d.config.get? key with
      | none => simp [own]
      | some v => simp [(proper key v given).2]

def stripped (fields : Dict Value) : Dict Value :=
  match fields.get? "implementation" with
  | some .null => fields.erase "implementation"
  | _ => fields

theorem get?_stripped_other (fields : Dict Value) {key : String} (other : key ≠ "implementation") :
    (stripped fields).get? key = fields.get? key := by
  unfold stripped
  split
  · rw [Dict.get?_erase, if_neg other]
  · rfl

theorem get?_stripped_implementation {fields : Dict Value} {implementation : Option String}
    (decoded : (fields.get? "implementation").elim (.ok none) (Decode.optional Decode.text) = .ok implementation) :
    (stripped fields).get? "implementation" = implementation.map .text := by
  unfold stripped
  cases given : fields.get? "implementation" with
  | none =>
    rw [given] at decoded
    cases decoded
    simpa using given
  | some v =>
    rw [given] at decoded
    rcases (Decode.optional_ok_iff Decode.text v implementation).1 decoded with ⟨rfl, rfl⟩ | ⟨some, content, text, rfl⟩
    · simp [Dict.get?_erase]
    · obtain rfl := (Decode.text_ok_iff v content).1 text
      simpa using given

theorem record_eq_stripped {fields : Dict Value} {d : Declaration} (whole : Value.IsDocument (.ofDict fields))
    (decoded : decode (.ofDict fields) = .ok d) : d.record = stripped fields := by
  obtain ⟨named, implemented, config⟩ := (decode_ok_iff fields d).1 decoded
  have proper := proper_of_decode decoded
  apply Dict.ext_get?
  intro key
  rw [get?_record]
  by_cases implementation : key = "implementation"
  · subst implementation
    rw [proper.lacks (by decide), get?_stripped_implementation implemented]
    rfl
  · rw [get?_stripped_other fields implementation]
    by_cases name : key = "name"
    · subst name
      rw [proper.lacks (by decide), named]
      rfl
    · have parameter : isParameter key = true := by simp [isParameter, name, implementation]
      rw [config, get?_parameters, if_pos parameter]
      cases given : fields.get? key with
      | none => simp [name, implementation]
      | some v =>
        have finite := (whole.field ((fields.mem_entries_iff key v).2 given)).finite
        simp [Value.finite_eq_self v finite]

/-- The declaration is written as the record that stands there, save for an implementation that is null. -/
def Restores (d : Declaration) (v : Value) : Prop :=
  ∃ fields : Dict Value, v = .ofDict fields ∧ d.toValue = .ofDict (stripped fields)

theorem exists_dict_of_decode {v : Value} {d : Declaration} (whole : v.IsDocument) (decoded : decode v = .ok d) :
    ∃ fields : Dict Value, v = .ofDict fields := by
  cases v with
  | record fields => exact ⟨⟨fields, whole.ordered.1⟩, rfl⟩
  | _ => cases decoded

theorem restores_of_decode {v : Value} {d : Declaration} (whole : v.IsDocument) (decoded : decode v = .ok d) :
    d.Restores v ∧ d.Proper := by
  obtain ⟨fields, rfl⟩ := exists_dict_of_decode whole decoded
  exact ⟨⟨fields, rfl, congrArg Value.ofDict (record_eq_stripped whole decoded)⟩, proper_of_decode decoded⟩

end BuildGate.Declaration
