import BuildGate.Proofs.Binding.Spelling
import BuildGate.Proofs.Document.Fields
import BuildGate.Rule.Builtin

namespace BuildGate

namespace Schema

variable {σ : Type} {schema : Schema σ} {params : Params} {s : σ}

structure Fits (names required : List String) (params : Params) : Prop where
  known : ∀ key ∈ params.keys, key ∈ names
  complete : ∀ name ∈ required, name ∈ params.keys

theorem Fits.of_mapValues {names required : List String} {f : Value → Value}
    (fits : Fits names required (params.mapValues f)) : Fits names required params :=
  ⟨params.keys_mapValues f ▸ fits.known, params.keys_mapValues f ▸ fits.complete⟩

def required (schema : Schema σ) : List String := (schema.fields.filter (·.required)).map (·.name)

theorem missing?_of_decode (decoded : schema.decode (.ofDict params) = .ok s) :
    schema.missing? params.entries = none := by
  unfold decode Value.ofDict at decoded
  cases read : schema.readFields schema.initial params.entries with
  | error e => simp [read, bind, Except.bind] at decoded
  | ok t =>
    cases missing : schema.missing? params.entries with
    | none => rfl
    | some name => simp [read, missing, bind, Except.bind, Decode.fail] at decoded

theorem fits_of_decode (closed : schema.closed = true) (decoded : schema.decode (.ofDict params) = .ok s) :
    Fits schema.names schema.required params := by
  constructor
  · intro key given
    obtain ⟨v, given⟩ := (params.mem_keys_iff key).1 given
    obtain ⟨field, found, -⟩ := accepts_of_decode closed decoded given
    have name : field.name = key := by simpa using List.find?_some found
    exact List.mem_map.2 ⟨field, List.mem_of_find?_eq_some found, name⟩
  · intro name needed
    obtain ⟨field, member, rfl⟩ := List.mem_map.1 needed
    obtain ⟨declared, required⟩ := List.mem_filter.1 member
    have present := missing?_of_decode decoded
    simp only [missing?, Option.map_eq_none_iff, List.find?_eq_none] at present
    have found := present field declared
    simp only [required, Bool.true_and, Bool.not_eq_true, Option.isNone_eq_false_iff] at found
    exact (params.mem_keys_iff _).2 (Option.isSome_iff_exists.1 found)

end Schema

namespace Builtin

open Schema (Fits)

def parameters : Builtin → List String
  | alwaysPass => []
  | alwaysFail _ => ["message"]
  | files _ _ => ["files", "allow_nulls", "message"]
  | value .property _ => ["property", "regex", "regex_message", "message"]
  | value .environment _ => ["variable_name", "regex", "regex_message", "message"]
  | condition _ => ["condition", "message"]

def required : Builtin → List String
  | value .property _ => ["property"]
  | value .environment _ => ["variable_name"]
  | condition _ => ["condition"]
  | alwaysPass | alwaysFail _ | files _ _ => []

def read? : Builtin → Option (Value → Decoded Builtin)
  | alwaysPass => none
  | alwaysFail _ => some fun v => (failureSchema.decode v).map alwaysFail
  | files expectation _ => some fun v => (FileList.schema.decode v).map (files expectation)
  | value source _ => some fun v => ((Requirement.schema source).decode v).map (value source)
  | condition _ => some fun v => (Condition.schema.decode v).map condition

/-- What an attempt to configure a rule makes of it. -/
def attempted (b : Builtin) (params : Params) : Builtin :=
  match b.configure params with
  | .ok configured => configured
  | .error _ => b

inductive Configures (b : Builtin) (params : Params) : Except BindError Builtin → Prop
  | bare (none : b.read? = none) (empty : params.keys = []) : Configures b params (.ok b)
  | superfluous (none : b.read? = none) (given : params.keys ≠ []) :
      Configures b params (.error (.unknownParameters params.keys))
  | strict {read : Value → Decoded Builtin} {c : Builtin} (reads : b.read? = some read)
      (first : read (.ofDict params) = .ok c) : Configures b params (.ok c)
  | coerced {read : Value → Decoded Builtin} {e : DecodeError} {c : Builtin} (reads : b.read? = some read)
      (first : read (.ofDict params) = .error e) (second : read (Value.ofDict params).coerce = .ok c) :
      Configures b params (.ok c)
  | refused {read : Value → Decoded Builtin} {e later : DecodeError} (reads : b.read? = some read)
      (first : read (.ofDict params) = .error e) (second : read (Value.ofDict params).coerce = .error later) :
      Configures b params (.error (.decode e))

/-- The rule reads its parameters by a closed record type that has them for its fields. -/
structure ReadsBy (b : Builtin) {σ : Type} (schema : Schema σ) (make : σ → Builtin) : Prop where
  read : b.read? = some fun v => (schema.decode v).map make
  configure : ∀ params, b.configure params = (schema.decodeParams params).map make
  closed : schema.closed = true
  names : schema.names = b.parameters
  required : schema.required = b.required

variable {b c : Builtin} {params : Params} {read : Value → Decoded Builtin}

theorem exists_readsBy (b : Builtin) :
    b = alwaysPass ∨ ∃ (σ : Type) (schema : Schema σ) (make : σ → Builtin), b.ReadsBy schema make := by
  cases b with
  | alwaysPass => exact .inl rfl
  | alwaysFail message => exact .inr ⟨_, failureSchema, alwaysFail, rfl, fun _ => rfl, rfl, rfl, rfl⟩
  | files expectation list => exact .inr ⟨_, FileList.schema, files expectation, rfl, fun _ => rfl, rfl, rfl, rfl⟩
  | value source requirement =>
    refine .inr ⟨_, Requirement.schema source, value source, rfl, fun _ => rfl, rfl, ?_, ?_⟩
    · cases source <;> rfl
    · cases source <;> rfl
  | condition c => exact .inr ⟨_, Condition.schema, condition, rfl, fun _ => rfl, rfl, rfl, rfl⟩

theorem ReadsBy.configures {σ : Type} {schema : Schema σ} {make : σ → Builtin} (reads : b.ReadsBy schema make)
    (params : Params) : b.Configures params (b.configure params) := by
  rw [reads.configure, Schema.decodeParams]
  cases first : schema.decode (.ofDict params) with
  | ok s => exact .strict reads.read (congrArg (Except.map make) first)
  | error e =>
    cases second : schema.decode (Value.ofDict params).coerce with
    | ok s =>
      exact .coerced reads.read (congrArg (Except.map make) first) (congrArg (Except.map make) second)
    | error later =>
      exact .refused reads.read (congrArg (Except.map make) first) (congrArg (Except.map make) second)

theorem configures (b : Builtin) (params : Params) : b.Configures params (b.configure params) := by
  rcases b.exists_readsBy with rfl | ⟨σ, schema, make, reads⟩
  · have empty : params.isEmpty = true ↔ params.keys = [] := by simp [Dict.isEmpty, Dict.keys]
    rw [configure]
    split
    · rename_i none
      exact .bare rfl (empty.1 none)
    · rename_i some
      exact .superfluous rfl (mt empty.2 some)
  · exact reads.configures params

theorem fits_of_read (reads : b.read? = some read) (decoded : read (.ofDict params) = .ok c) :
    Fits b.parameters b.required params := by
  rcases b.exists_readsBy with rfl | ⟨σ, schema, make, form⟩
  · cases reads
  · obtain rfl := Option.some.inj (form.read.symm.trans reads)
    obtain ⟨s, decoded, -⟩ := Decode.map_ok_iff.1 decoded
    exact form.names ▸ form.required ▸ Schema.fits_of_decode form.closed decoded

theorem fits_of_coerced (reads : b.read? = some read) (decoded : read (Value.ofDict params).coerce = .ok c) :
    Fits b.parameters b.required params := by
  rw [Value.coerce_ofDict] at decoded
  exact (fits_of_read reads decoded).of_mapValues

theorem fits_of_configure (configured : b.configure params = .ok c) : Fits b.parameters b.required params := by
  have configures := b.configures params
  rw [configured] at configures
  cases configures with
  | bare none empty =>
    rcases b.exists_readsBy with rfl | ⟨σ, schema, make, reads⟩
    · exact ⟨fun key given => (empty ▸ given : key ∈ []), fun name needed => nomatch needed⟩
    · rw [reads.read] at none
      cases none
  | strict reads first => exact fits_of_read reads first
  | coerced reads first second => exact fits_of_coerced reads second

theorem configure_configured (configured : b.configure params = .ok c) (other : Params) :
    c.configure other = b.configure other := by
  cases b with
  | alwaysPass =>
    rw [configure] at configured
    split at configured
    · cases configured
      rfl
    · cases configured
  | alwaysFail message =>
    obtain ⟨s, -, rfl⟩ := Decode.map_ok_iff.1 configured
    rfl
  | files expectation list =>
    obtain ⟨s, -, rfl⟩ := Decode.map_ok_iff.1 configured
    rfl
  | value source requirement =>
    obtain ⟨s, -, rfl⟩ := Decode.map_ok_iff.1 configured
    rfl
  | condition old =>
    obtain ⟨s, -, rfl⟩ := Decode.map_ok_iff.1 configured
    rfl

theorem attempted_of_error {e : BindError} (fails : b.configure params = .error e) : b.attempted params = b := by
  rw [attempted, fails]

theorem configure_attempted (b : Builtin) (params other : Params) :
    (b.attempted params).configure other = b.configure other := by
  cases configured : b.configure params with
  | ok c => rw [attempted, configured, configure_configured configured]
  | error e => rw [attempted_of_error configured]

theorem configure_foldl (b : Builtin) (trees : List Params) (other : Params) :
    (trees.foldl attempted b).configure other = b.configure other := by
  induction trees generalizing b with
  | nil => rfl
  | cons params rest ih => rw [List.foldl_cons, ih, configure_attempted]

theorem foldl_refused {e : BindError} (fails : b.configure params = .error e) (before after : List Params) :
    (before ++ params :: after).foldl attempted b = (before ++ after).foldl attempted b := by
  have refused : (before.foldl attempted b).configure params = .error e := by rw [configure_foldl, fails]
  rw [List.foldl_append, List.foldl_append, List.foldl_cons, attempted_of_error refused]

/-- A rule takes no parameters but its own and not without those that it needs, and what is told of a tree that it
    refuses is the fault of the tree as it was given. -/
theorem configures_by_own_parameters (b : Builtin) (params : Params) :
    (∀ c, b.configure params = .ok c → Fits b.parameters b.required params) ∧
      (∀ read, b.read? = some read →
        (∀ c, read (Value.ofDict params).coerce = .ok c → Fits b.parameters b.required params) ∧
        ∀ e, b.configure params = .error e → ∃ fault, read (.ofDict params) = .error fault ∧ e = .decode fault) ∧
      ∀ e, b.configure params = .error e → ∀ before after log,
        ((before ++ params :: after).foldl attempted b).rule log = ((before ++ after).foldl attempted b).rule log := by
  refine ⟨fun c => fits_of_configure, ?_, ?_⟩
  · intro read reads
    refine ⟨fun c => fits_of_coerced reads, ?_⟩
    intro e fails
    have configures := b.configures params
    rw [fails] at configures
    cases configures with
    | superfluous none given =>
      rw [reads] at none
      cases none
    | @refused other fault later alsoReads first second =>
      obtain rfl := Option.some.inj (alsoReads.symm.trans reads)
      exact ⟨fault, first, rfl⟩
  · intro e fails before after log
    rw [foldl_refused fails]

/-- A truth value that was written out is understood, and a misspelled key is told as it was given. -/
theorem configures_by_own_parameters_files :
    let rule : Builtin := files .present .empty
    let read := fun v => (FileList.schema.decode v).map (files .present)
    let written : Params := (∅ : Params).insert "allow_nulls" (.text "true")
    let misspelled : Params := (∅ : Params).insert "file" (.text "true")
    let fault : DecodeError := ⟨.unknownField "file" ["files", "allow_nulls", "message"], []⟩
    let configured := files .present ⟨[], true, none⟩
    rule.configure written = .ok configured ∧ rule.read? = some read ∧
      read (Value.ofDict written).coerce = .ok configured ∧ Fits rule.parameters rule.required written ∧
      rule.configure misspelled = .error (.decode fault) ∧ read (.ofDict misspelled) = .error fault ∧
      ([written, misspelled].foldl attempted rule).rule none = configured.rule none := by
  intro rule read written misspelled fault configured
  have takes : rule.configure written = .ok configured := rfl
  have reads : rule.read? = some read := rfl
  have second : read (Value.ofDict written).coerce = .ok configured := rfl
  have refuses : rule.configure misspelled = .error (.decode fault) := rfl
  obtain ⟨-, attempts, -⟩ := configures_by_own_parameters rule written
  obtain ⟨-, refused, traceless⟩ := configures_by_own_parameters rule misspelled
  obtain ⟨told, first, same⟩ := (refused read reads).2 _ refuses
  obtain rfl := BindError.decode.inj same
  exact ⟨takes, reads, second, (attempts read reads).1 _ second, refuses, first, traceless _ refuses [written] [] none⟩

end Builtin

end BuildGate
