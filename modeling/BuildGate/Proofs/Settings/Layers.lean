import BuildGate.Proofs.Settings.Written
import BuildGate.Settings.Loader

namespace BuildGate

namespace Schema

variable {σ α : Type} {schema : Schema σ}

theorem Given.unique {params : Params} {name : String} {decode : Value → Decoded α} {before after other : α}
    (given : Given params name decode before after) (given' : Given params name decode before other) :
    after = other := by
  cases given with
  | absent none kept =>
    cases given' with
    | absent _ kept' => rw [kept, kept']
    | present found _ => cases none.symm.trans found
  | present found decoded =>
    cases given' with
    | absent none _ => cases none.symm.trans found
    | present found' decoded' =>
      cases found.symm.trans found'
      exact Except.ok.inj (decoded.symm.trans decoded')

theorem given_congr {params others : Params} {name : String} {decode : Value → Decoded α} {before after : α}
    (same : params.get? name = others.get? name) :
    Given params name decode before after ↔ Given others name decode before after := by
  constructor
  · rintro (⟨none, kept⟩ | ⟨given, decoded⟩)
    · exact .absent (same ▸ none) kept
    · exact .present (same ▸ given) decoded
  · rintro (⟨none, kept⟩ | ⟨given, decoded⟩)
    · exact .absent (same.trans none) kept
    · exact .present (same.trans given) decoded

/-- Fields beyond the listed ones are tolerated, so a record decodes as soon as each listed field does. -/
theorem exists_decode_of_given (tolerant : schema.closed = false)
    (optional : ∀ field ∈ schema.fields, field.required = false) {params : Params}
    (each : ∀ field ∈ schema.fields, ∀ v, params.get? field.name = some v → ∀ s, ∃ t, field.read v s = .ok t) :
    ∃ s, schema.decode (.ofDict params) = .ok s := by
  rw [← params.ofList_entries]
  refine exists_decode optional fun entry member s => ?_
  cases found : schema.find? entry.1 with
  | none => exact ⟨s, .unknown found tolerant⟩
  | some field =>
    have named : field.name = entry.1 := by simpa using List.find?_some found
    have given := (params.mem_entries_iff entry.1 entry.2).1 member
    obtain ⟨t, read⟩ := each field (List.mem_of_find?_eq_some found) entry.2 (named ▸ given) s
    exact ⟨t, .known found read⟩

end Schema

theorem Field.exists_read {σ α : Type} {params : Params} {name : String} {required : Bool}
    {decode : Value → Decoded α} {put : α → σ → σ} {before after : α}
    (given : Schema.Given params name decode before after) {v : Value} (held : params.get? name = some v) (s : σ) :
    ∃ t, (Field.of name required decode put).read v s = .ok t := by
  cases given with
  | absent none => cases none.symm.trans held
  | present found decoded =>
    cases found.symm.trans held
    exact ⟨put after s, Decode.map_ok_iff.2 ⟨after, decoded, rfl⟩⟩

theorem Toml.statements_last {draft final : Draft} {line : Nat} {c : Char} {cs : List Char} {s : Statement}
    (spelled : statement (c :: cs) = some (s, [])) (added : draft.add s = some final) :
    statements draft line (c :: cs) = .ok final := by
  rw [statements, spelled]
  simp only [added, List.length_nil, Nat.zero_le, dite_true]
  rw [statements]

theorem EnvironmentValue.toValue_eq_bool_iff (v : EnvironmentValue) (flag : Bool) :
    v.toValue = .bool flag ↔ v = .bool flag := by
  cases v <;> simp [toValue, Value.ofDict]

namespace Loader

variable {loader : Loader} {environment other : Dict String} {fields : Dict Value} {c d : Config}

/-- The value of a switch: what the last variable that sets it says, or else the settings file, or else the
    default. -/
inductive Switched (loader : Loader) (environment : Dict String) (fields : Dict Value) (t : Toggle) (on : Bool) :
    Prop
  | set {name text : String}
      (last : Latest (fun entry => loader.sets t entry.1 = true) environment.entries (name, text))
      (reads : EnvironmentValue.read text = .bool on) : Switched loader environment fields t on
  | file (unset : ∀ name text, environment.get? name = some text → loader.sets t name = false)
      (given : fields.get? t.key = some (.bool on)) : Switched loader environment fields t on
  | default (unset : ∀ name text, environment.get? name = some text → loader.sets t name = false)
      (absent : fields.get? t.key = none) (same : on = Config.default.toggle t) :
      Switched loader environment fields t on

theorem override?_eq_some_iff (loader : Loader) (environment : Dict String) (t : Toggle) (v : EnvironmentValue) :
    loader.override? environment t = some v ↔ ∃ name text,
      Latest (fun entry => loader.sets t entry.1 = true) environment.entries (name, text) ∧ .read text = v := by
  simp only [override?, Option.map_eq_some_iff, getLast?_filter_iff, Prod.exists]

theorem override?_eq_none_iff (loader : Loader) (environment : Dict String) (t : Toggle) :
    loader.override? environment t = none ↔
      ∀ name text, environment.get? name = some text → loader.sets t name = false := by
  simp only [override?, Option.map_eq_none_iff, List.getLast?_eq_none_iff, List.filter_eq_nil_iff, Prod.forall,
    environment.mem_entries_iff, Bool.not_eq_true]

theorem get?_insertAll_toggle (override : Toggle → Option EnvironmentValue) (ts : List Toggle) (fields : Dict Value)
    (t : Toggle) :
    (fields.insertAll ((ts.filterMap fun u => (override u).map (u, ·)).map fun entry =>
      (entry.1.key, entry.2.toValue))).get? t.key =
        if t ∈ ts then ((override t).map (·.toValue)).or (fields.get? t.key) else fields.get? t.key := by
  induction ts generalizing fields with
  | nil => rfl
  | cons u rest ih =>
    cases said : override u with
    | none =>
      rw [List.filterMap_cons_none (by simp [said]), ih]
      by_cases same : t = u
      · subst same
        simp [said]
      · simp [same]
    | some v =>
      rw [List.filterMap_cons_some (by simp [said]; rfl), List.map_cons]
      refine (ih (fields.insert u.key v.toValue)).trans ?_
      rw [Dict.get?_insert]
      by_cases same : t = u
      · subst same
        simp [said]
      · have apart : t.key ≠ u.key := fun equal => same (Config.key_inj equal)
        simp [same, apart]

theorem get?_merge_toggle (loader : Loader) (environment : Dict String) (fields : Dict Value) (t : Toggle) :
    (merge fields (loader.overrides environment)).get? t.key =
      ((loader.override? environment t).map (·.toValue)).or (fields.get? t.key) := by
  have listed : t ∈ Toggle.all := by cases t <;> simp [Toggle.all]
  rw [merge, overrides, get?_insertAll_toggle, if_pos listed]

theorem get?_merge_other {key : String} (other : ∀ t : Toggle, key ≠ t.key) (fields : Dict Value)
    (overrides : List (Toggle × EnvironmentValue)) : (merge fields overrides).get? key = fields.get? key := by
  have absent : (overrides.map fun entry => (entry.1.key, entry.2.toValue)).reverse.lookup key = none := by
    rw [List.lookup_eq_none_iff]
    intro entry member
    obtain ⟨given, -, rfl⟩ := List.mem_map.1 (List.mem_reverse.1 member)
    exact bne_iff_ne.2 (other given.1)
  rw [merge, Dict.get?_insertAll, absent, Option.none_or]

theorem given_merge_iff {α : Type} {key : String} (other : ∀ t : Toggle, key ≠ t.key) {decode : Value → Decoded α}
    {before after : α} (overrides : List (Toggle × EnvironmentValue)) :
    Schema.Given (merge fields overrides) key decode before after ↔ Schema.Given fields key decode before after :=
  Schema.given_congr (get?_merge_other other fields overrides)

theorem given_merge_toggle_iff (loader : Loader) (environment : Dict String) (fields : Dict Value) (t : Toggle)
    (on : Bool) :
    Schema.Given (merge fields (loader.overrides environment)) t.key Decode.bool (Config.default.toggle t) on ↔
      loader.Switched environment fields t on := by
  have merged := get?_merge_toggle loader environment fields t
  cases said : loader.override? environment t with
  | some v =>
    obtain ⟨name, text, last, rfl⟩ := (override?_eq_some_iff _ _ _ _).1 said
    rw [said, Option.map_some, Option.some_or] at merged
    constructor
    · rintro (⟨none, -⟩ | ⟨given, decoded⟩)
      · cases merged.symm.trans none
      · cases merged.symm.trans given
        exact .set last ((EnvironmentValue.toValue_eq_bool_iff _ _).1 ((Decode.bool_ok_iff _ _).1 decoded))
    · rintro (⟨last', reads⟩ | ⟨unset, -⟩ | ⟨unset, -, -⟩)
      · rename_i name' text'
        have again := (override?_eq_some_iff loader environment t _).2 ⟨name', text', last', rfl⟩
        have same : EnvironmentValue.read text = .bool on :=
          (Option.some.inj (said.symm.trans again)).trans reads
        rw [same] at merged
        exact .present merged rfl
      · cases said.symm.trans ((override?_eq_none_iff _ _ _).2 unset)
      · cases said.symm.trans ((override?_eq_none_iff _ _ _).2 unset)
  | none =>
    have unset := (override?_eq_none_iff _ _ _).1 said
    rw [said, Option.map_none, Option.none_or] at merged
    constructor
    · rintro (⟨none, kept⟩ | ⟨given, decoded⟩)
      · exact .default unset (merged ▸ none) kept
      · obtain rfl := (Decode.bool_ok_iff _ _).1 decoded
        exact .file unset (merged ▸ given)
    · rintro (⟨last, -⟩ | ⟨-, given⟩ | ⟨-, absent, same⟩)
      · cases said.symm.trans ((override?_eq_some_iff _ _ _ _).2 ⟨_, _, last, rfl⟩)
      · exact .present (merged.trans given) rfl
      · exact .absent (merged.trans absent) same

theorem ne_key {key : String} (other : key ∈ ["skip_rules", "properties", "rules", "logging"]) (t : Toggle) :
    key ≠ t.key := by
  rintro rfl
  cases t <;> simp [Toggle.key] at other

structure Parts (loader : Loader) (environment : Dict String) (fields : Dict Value) (c : Config) : Prop where
  switched : ∀ t, loader.Switched environment fields t (c.toggle t)
  skipRules : Schema.Given fields "skip_rules" (Decode.list Decode.text) [] c.skipRules
  properties : Schema.Given fields "properties" (Decode.dict Decode.text) ∅ c.properties
  rules : Schema.Given fields "rules" (Decode.list Declaration.decode) [] c.rules
  logging : Schema.Given fields "logging" (Logging.schema false).decode .default c.logging

theorem parts_of_decode
    (decoded : (Config.schema false).decode (.ofDict (merge fields (loader.overrides environment))) = .ok c) :
    loader.Parts environment fields c where
  switched t := by
    rw [← given_merge_toggle_iff]
    exact (Config.component_toggle false t).of_decode decoded
  skipRules := by
    rw [← given_merge_iff (ne_key (by simp)) (loader.overrides environment)]
    exact (Config.components false).1.of_decode decoded
  properties := by
    rw [← given_merge_iff (ne_key (by simp)) (loader.overrides environment)]
    exact (Config.components false).2.1.of_decode decoded
  rules := by
    rw [← given_merge_iff (ne_key (by simp)) (loader.overrides environment)]
    exact (Config.components false).2.2.1.of_decode decoded
  logging := by
    rw [← given_merge_iff (ne_key (by simp)) (loader.overrides environment)]
    exact (Config.components false).2.2.2.of_decode decoded

theorem Switched.unique {t : Toggle} {on other : Bool} (switched : loader.Switched environment fields t on)
    (switched' : loader.Switched environment fields t other) : on = other :=
  ((given_merge_toggle_iff _ _ _ _ _).2 switched).unique ((given_merge_toggle_iff _ _ _ _ _).2 switched')

theorem Parts.unique (parts : loader.Parts environment fields c) (parts' : loader.Parts environment fields d) :
    c = d :=
  Config.ext_toggle (fun t => (parts.switched t).unique (parts'.switched t))
    (parts.skipRules.unique parts'.skipRules) (parts.properties.unique parts'.properties)
    (parts.rules.unique parts'.rules) (parts.logging.unique parts'.logging)

theorem exists_decode_of_switched (switched : ∀ t, ∃ on, loader.Switched environment fields t on)
    (parts : loader.Parts other fields c) :
    ∃ d, (Config.schema false).decode (.ofDict (merge fields (loader.overrides environment))) = .ok d := by
  refine Schema.exists_decode_of_given rfl (Config.forall_fields (fun _ => rfl) ?_) (Config.forall_fields ?_ ?_)
  · simp [Config.schema, Toggle.all, Field.of]
  · intro t v held s
    obtain ⟨on, switched⟩ := switched t
    exact Field.exists_read ((given_merge_toggle_iff _ _ _ _ _).2 switched) held s
  · have given : ∀ {α : Type} {key : String} {decode : Value → Decoded α} {before after : α},
        key ∈ ["skip_rules", "properties", "rules", "logging"] → Schema.Given fields key decode before after →
          Schema.Given (merge fields (loader.overrides environment)) key decode before after :=
      fun other part => (given_merge_iff (ne_key other) _).2 part
    simp only [Config.schema, Toggle.all, List.map_cons, List.map_nil, List.cons_append, List.nil_append,
      List.drop_succ_cons, List.drop_zero, List.forall_mem_cons, List.not_mem_nil, false_implies, implies_true,
      and_true]
    exact ⟨fun v => Field.exists_read (given (by simp) parts.skipRules),
      fun v => Field.exists_read (given (by simp) parts.properties),
      fun v => Field.exists_read (given (by simp) parts.rules),
      fun v => Field.exists_read (given (by simp) parts.logging)⟩

theorem decode_merge_iff :
    (Config.schema false).decode (.ofDict (merge fields (loader.overrides environment))) = .ok c ↔
      loader.Parts environment fields c := by
  constructor
  · exact parts_of_decode
  · intro parts
    obtain ⟨d, decoded⟩ := exists_decode_of_switched (fun t => ⟨_, parts.switched t⟩) parts
    rw [decoded, (parts_of_decode decoded).unique parts]

structure Fit (c : Config) : Prop where
  named : ∀ rule ∈ c.rules, Text.isBlankText rule.name = false
  leveled : ∃ level, Log.Level.parse c.logging.level = .ok level

theorem validate_ok_iff (c d : Config) : validate c = .ok d ↔ d = c ∧ Fit c := by
  have named : firstBlankRule c = none ↔ ∀ rule ∈ c.rules, Text.isBlankText rule.name = false := by
    simp [firstBlankRule]
  unfold validate
  cases blank : firstBlankRule c with
  | some index =>
    have unnamed : ¬ Fit c := fun fit => by simp [named.2 fit.named] at blank
    simp [unnamed]
  | none =>
    cases level : Log.Level.parse c.logging.level with
    | error e =>
      have unleveled : ¬ Fit c := fun fit => by simpa [level] using fit.leveled
      simp [Except.map, unleveled]
    | ok l =>
      have fit : Fit c := ⟨named.1 blank, l, level⟩
      simp [Except.map, fit, eq_comm]

def Holds (loader : Loader) (files : FileSystem) (fields : Dict Value) : Prop :=
  ∃ file, loader.chooseFile files = .ok file ∧ fileFields ((file.bind files.find?).map (·.2)) = .ok fields

theorem extract_ok_iff (loader : Loader) (files : FileSystem) (environment : Dict String) (file : Option String)
    (c : Config) : loader.extract ⟨files, environment⟩ file = .ok c ↔
      ∃ fields, fileFields ((file.bind files.find?).map (·.2)) = .ok fields ∧ loader.Parts environment fields c := by
  unfold extract
  cases read : fileFields ((file.bind files.find?).map (·.2)) with
  | error fault => simp only [read, reduceCtorEq, false_and, exists_false]
  | ok fields =>
    simp only [read, Except.ok.injEq, exists_eq_left', ← decode_merge_iff]
    cases (Config.schema false).decode (.ofDict (merge fields (loader.overrides environment))) <;>
      simp [Except.mapError]

theorem load_ok_iff (loader : Loader) (files : FileSystem) (environment : Dict String) (c : Config) :
    (loader.load ⟨files, environment⟩).2 = .ok c ↔
      ∃ fields, loader.Holds files fields ∧ loader.Parts environment fields c ∧ Fit c := by
  unfold load
  cases chosen : loader.chooseFile files with
  | error path => simp [Holds, chosen]
  | ok file =>
    have held : ∀ fields, loader.Holds files fields ↔
        fileFields ((file.bind files.find?).map (·.2)) = .ok fields := by simp [Holds, chosen]
    have extracted := extract_ok_iff loader files environment file
    simp only [held, ← and_assoc, exists_and_right, ← extracted]
    cases loader.extract ⟨files, environment⟩ file with
    | error fault => simp
    | ok d =>
      simp only [validate_ok_iff, Except.ok.injEq]
      constructor
      · rintro ⟨rfl, fit⟩
        exact ⟨rfl, fit⟩
      · rintro ⟨rfl, fit⟩
        exact ⟨rfl, fit⟩

def switchOn (t : Toggle) : String := t.key ++ " = true\n"

theorem read_switchOn (t : Toggle) : Toml.read (switchOn t) = .ok (.ofList [(t.key, .bool true)]) := by
  have spelled : Toml.statement (switchOn t).toList = some (.assign ⟨[], t.key, .bool true⟩, []) := by
    cases t <;> rfl
  obtain ⟨final, added, filled⟩ : ∃ final, Toml.Draft.start.add (.assign ⟨[], t.key, .bool true⟩) = some final ∧
      final.root.toDict = .ofList [(t.key, .bool true)] := by
    cases t <;> exact ⟨_, rfl, rfl⟩
  obtain ⟨c, cs, first, unmarked⟩ : ∃ c cs, (switchOn t).toList = c :: cs ∧ Toml.dropMark (c :: cs) = c :: cs := by
    cases t <;> exact ⟨_, _, rfl, rfl⟩
  rw [first] at spelled
  rw [Toml.read, first, unmarked, Toml.statements_last spelled added, Except.map, filled]

theorem fileFields_switchOn (told : Option Toggle) :
    fileFields (told.map switchOn) = .ok (told.elim ∅ fun t => .ofList [(t.key, .bool true)]) := by
  cases told with
  | none => rfl
  | some t => rw [Option.map_some, fileFields, read_switchOn]; rfl

end Loader

end BuildGate
