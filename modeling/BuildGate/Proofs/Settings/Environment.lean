import BuildGate.Proofs.Settings.Layers
import Mathlib.Data.List.TakeWhile

namespace BuildGate

namespace EnvironmentValue

def Spells (text : String) (flag : Bool) : Prop :=
  ∃ before after, (∀ c ∈ before ++ after, isSpace c = true) ∧ text.toList = before ++ (toString flag).toList ++ after

theorem ofWord_ne_bool (word : List Char) (flag : Bool) : ofWord word ≠ .bool flag := by
  simp only [ofWord]
  split <;> simp

theorem value_bool_iff (fuel : Nat) (cs rest : List Char) (flag : Bool) :
    value (fuel + 1) cs = some (.bool flag, rest) ↔
      ∃ after, skipSpace cs = (toString flag).toList ++ after ∧ rest = skipSpace after := by
  have words : (toString true).toList = ['t', 'r', 'u', 'e'] ∧ (toString false).toList = ['f', 'a', 'l', 's', 'e'] :=
    ⟨rfl, rfl⟩
  rw [value]
  generalize skipSpace cs = ds
  split
  · cases flag <;> simp [words, eq_comm]
  · cases flag <;> simp [words, eq_comm]
  · cases flag <;> simp [words]
  · cases flag <;> simp [words]
  · cases flag <;> simp [words]
  · cases flag <;> simp [words]
  · cases flag <;> simp [words]
  · cases flag <;> simp_all [ofWord_ne_bool]

theorem skipSpace_eq_append_iff (flag : Bool) (cs after : List Char) :
    skipSpace cs = (toString flag).toList ++ after ↔
      ∃ before, (∀ c ∈ before, isSpace c = true) ∧ cs = before ++ (toString flag).toList ++ after := by
  constructor
  · intro skipped
    refine ⟨cs.takeWhile isSpace, fun c => List.mem_takeWhile_imp, ?_⟩
    rw [List.append_assoc, ← skipped, skipSpace, List.takeWhile_append_dropWhile]
  · rintro ⟨before, blank, rfl⟩
    rw [skipSpace, List.append_assoc, List.dropWhile_append_of_pos blank]
    cases flag <;> rfl

theorem read_eq_bool_iff (text : String) (flag : Bool) : read text = .bool flag ↔ Spells text flag := by
  have whole : read text = .bool flag ↔
      value (2 * text.length + 1 + 1) text.toList = some (.bool flag, []) := by
    unfold read
    split <;> simp_all
  rw [whole, value_bool_iff]
  constructor
  · rintro ⟨after, skipped, ended⟩
    obtain ⟨before, blank, spelled⟩ := (skipSpace_eq_append_iff flag _ _).1 skipped
    refine ⟨before, after, fun c member => ?_, spelled⟩
    rcases List.mem_append.1 member with front | back
    · exact blank c front
    · exact List.dropWhile_eq_nil_iff.1 ended.symm c back
  · rintro ⟨before, after, blank, spelled⟩
    refine ⟨after, (skipSpace_eq_append_iff flag _ _).2 ⟨before, fun c front => ?_, spelled⟩, ?_⟩
    · exact blank c (List.mem_append_left _ front)
    · exact (List.dropWhile_eq_nil_iff.2 fun c back => blank c (List.mem_append_right _ back)).symm

end EnvironmentValue

namespace Loader

/-- The name of the variable that a switch has, apart from the case of letters and from blanks around the name. -/
def Owns (loader : Loader) (t : Toggle) (name : String) : Prop :=
  lowered (Text.trim name) = lowered (loader.variableStem ++ "_" ++ t.key)

instance (loader : Loader) (t : Toggle) (name : String) : Decidable (loader.Owns t name) :=
  inferInstanceAs (Decidable (_ = _))

theorem sets_iff (loader : Loader) (t : Toggle) (name : String) : loader.sets t name = true ↔ loader.Owns t name :=
  beq_iff_eq

variable {loader : Loader} {environment other : Dict String} {fields : Dict Value} {t : Toggle} {on : Bool}

theorem override?_congr (same : ∀ name, loader.Owns t name → environment.get? name = other.get? name) :
    loader.override? environment t = loader.override? other t := by
  have own : environment.filterKeys (loader.sets t) = other.filterKeys (loader.sets t) := by
    refine Dict.ext_get? fun name => ?_
    rw [Dict.get?_filterKeys, Dict.get?_filterKeys]
    split
    · exact same name ((sets_iff _ _ _).1 ‹_›)
    · rfl
  have entries := congrArg Dict.entries own
  unfold override?
  exact congrArg (fun kept => (kept.getLast?).map fun entry => EnvironmentValue.read entry.2) entries

theorem switched_congr (same : ∀ name, loader.Owns t name → environment.get? name = other.get? name) :
    loader.Switched environment fields t on ↔ loader.Switched other fields t on := by
  rw [← given_merge_toggle_iff, ← given_merge_toggle_iff]
  refine Schema.given_congr ?_
  rw [get?_merge_toggle, get?_merge_toggle, override?_congr same]

def Single (loader : Loader) (environment : Dict String) (t : Toggle) : Prop :=
  ∀ name name', loader.Owns t name → loader.Owns t name' → environment.get? name ≠ none →
    environment.get? name' ≠ none → name = name'

/-- The switch is what its own variable spells, or else what the file gives it, or else the default. -/
structure Follows (loader : Loader) (environment : Dict String) (fields : Dict Value) (t : Toggle) (on : Bool) :
    Prop where
  own : ∀ name text, loader.Owns t name → environment.get? name = some text → EnvironmentValue.Spells text on
  file : (∀ name, loader.Owns t name → environment.get? name = none) → ∀ v, fields.get? t.key = some v → v = .bool on
  default : (∀ name, loader.Owns t name → environment.get? name = none) → fields.get? t.key = none →
    on = Config.default.toggle t

theorem Switched.follows (switched : loader.Switched environment fields t on) (single : loader.Single environment t) :
    loader.Follows environment fields t on := by
  cases switched with
  | @set name' text' last reads =>
    obtain ⟨member, sets⟩ := last.mem
    have given' := (environment.mem_entries_iff name' text').1 member
    have own' := (sets_iff loader t name').1 sets
    refine ⟨fun name text own given => ?_, fun unset => ?_, fun unset => ?_⟩
    · obtain rfl := single name name' own own' (by simp [given]) (by simp [given'])
      obtain rfl := Option.some.inj (given.symm.trans given')
      exact (EnvironmentValue.read_eq_bool_iff text on).1 reads
    · cases given'.symm.trans (unset name' own')
    · cases given'.symm.trans (unset name' own')
  | file unset given =>
    refine ⟨fun name text own held => ?_, fun _ v held => ?_, fun _ absent => ?_⟩
    · cases ((sets_iff _ _ _).2 own).symm.trans (unset name text held)
    · exact Option.some.inj (held.symm.trans given)
    · cases absent.symm.trans given
  | default unset absent same =>
    refine ⟨fun name text own held => ?_, fun _ v held => ?_, fun _ _ => same⟩
    · cases ((sets_iff _ _ _).2 own).symm.trans (unset name text held)
    · cases absent.symm.trans held

theorem Holds.unique {files : FileSystem} {fields others : Dict Value} (holds : loader.Holds files fields)
    (holds' : loader.Holds files others) : fields = others := by
  obtain ⟨file, chosen, read⟩ := holds
  obtain ⟨file', chosen', read'⟩ := holds'
  obtain rfl := Except.ok.inj (chosen.symm.trans chosen')
  exact Except.ok.inj (read.symm.trans read')

theorem Switched.exists_of_spelled (spelled : ∀ name text, loader.Owns t name → environment.get? name = some text →
      ∃ flag, EnvironmentValue.Spells text flag) (bare : loader.Switched ∅ fields t on) :
    ∃ on, loader.Switched environment fields t on := by
  cases said : loader.override? environment t with
  | some v =>
    obtain ⟨name, text, last, -⟩ := (override?_eq_some_iff _ _ _ _).1 said
    obtain ⟨member, sets⟩ := last.mem
    obtain ⟨flag, spells⟩ :=
      spelled name text ((sets_iff _ _ _).1 sets) ((environment.mem_entries_iff name text).1 member)
    exact ⟨flag, .set last ((EnvironmentValue.read_eq_bool_iff text flag).2 spells)⟩
  | none =>
    have unset := (override?_eq_none_iff _ _ _).1 said
    cases bare with
    | set last => cases last.mem.1
    | file _ given => exact ⟨on, .file unset given⟩
    | default _ absent same => exact ⟨on, .default unset absent same⟩

theorem exists_load_of_spelled {files : FileSystem} {c : Config} (loads : (loader.load ⟨files, ∅⟩).2 = .ok c)
    (spelled : ∀ t name text, loader.Owns t name → environment.get? name = some text →
      ∃ flag, EnvironmentValue.Spells text flag) : ∃ d, (loader.load ⟨files, environment⟩).2 = .ok d := by
  obtain ⟨fields, holds, parts, fit⟩ := (load_ok_iff _ _ _ _).1 loads
  have switched : ∀ t, ∃ on, loader.Switched environment fields t on :=
    fun t => (parts.switched t).exists_of_spelled (spelled t)
  obtain ⟨d, decoded⟩ := exists_decode_of_switched switched parts
  have parts' := parts_of_decode decoded
  have rules : d.rules = c.rules := parts'.rules.unique parts.rules
  have logging : d.logging = c.logging := parts'.logging.unique parts.logging
  exact ⟨d, (load_ok_iff _ _ _ _).2 ⟨fields, holds, parts', rules ▸ fit.named, logging ▸ fit.leveled⟩⟩

/-- Two environments give the same settings apart from the switches, and the same switch where they agree on its own
    variables. One environment gives a switch what its own variable spells, or else what the file has, or else the
    default, whatever the other variables are; and the settings are always fit for a run. Settings that load without
    an environment load with every one whose variables for switches spell truth values. -/
theorem environment_moves_switches (loader : Loader) (files : FileSystem) :
    (∀ environment other c d, (loader.load ⟨files, environment⟩).2 = .ok c →
      (loader.load ⟨files, other⟩).2 = .ok d →
        c.skipRules = d.skipRules ∧ c.properties = d.properties ∧ c.rules = d.rules ∧ c.logging = d.logging ∧
          ∀ t, (∀ name, loader.Owns t name → environment.get? name = other.get? name) → c.toggle t = d.toggle t) ∧
    (∀ environment c, (loader.load ⟨files, environment⟩).2 = .ok c →
      Fit c ∧ ∃ fields, loader.Holds files fields ∧
        ∀ t, loader.Single environment t → loader.Follows environment fields t (c.toggle t)) ∧
    ∀ environment c, (loader.load ⟨files, ∅⟩).2 = .ok c →
      (∀ t name text, loader.Owns t name → environment.get? name = some text →
        ∃ flag, EnvironmentValue.Spells text flag) → ∃ d, (loader.load ⟨files, environment⟩).2 = .ok d := by
  refine ⟨?_, ?_, fun environment c loads spelled => exists_load_of_spelled loads spelled⟩
  · intro environment other c d loads loads'
    obtain ⟨fields, holds, parts, -⟩ := (load_ok_iff _ _ _ _).1 loads
    obtain ⟨fields', holds', parts', -⟩ := (load_ok_iff _ _ _ _).1 loads'
    obtain rfl := holds.unique holds'
    refine ⟨parts.skipRules.unique parts'.skipRules, parts.properties.unique parts'.properties,
      parts.rules.unique parts'.rules, parts.logging.unique parts'.logging, fun t same => ?_⟩
    exact ((switched_congr same).1 (parts.switched t)).unique (parts'.switched t)
  · intro environment c loads
    obtain ⟨fields, holds, parts, fit⟩ := (load_ok_iff _ _ _ _).1 loads
    exact ⟨fit, fields, holds, fun t single => (parts.switched t).follows single⟩

def lone (path content : String) : FileSystem :=
  ⟨"/w", fun place => if place = path then some (.regular content) else none⟩

def mixedCase : Dict String := .ofList [("ENFORCER_RULES", "[]"), ("Enforcer_Fail_Fast", " true ")]

theorem holds_lone : new.Holds (lone "/w/enforcer.toml" (switchOn .skip)) (.ofList [("skip", .bool true)]) :=
  ⟨some "/w/enforcer.toml", rfl, fileFields_switchOn (some .skip)⟩

theorem owns_mixedCase {t : Toggle} {name : String} (own : new.Owns t name) (set : mixedCase.get? name ≠ none) :
    t = .failFast ∧ name = "Enforcer_Fail_Fast" := by
  have given : name ∈ ["ENFORCER_RULES", "Enforcer_Fail_Fast"] := by
    obtain ⟨text, held⟩ := Option.ne_none_iff_exists'.1 set
    exact List.mem_map_of_mem (f := Prod.fst) ((mixedCase.mem_entries_iff name text).2 held)
  have one : ∀ other ∈ ["ENFORCER_RULES", "Enforcer_Fail_Fast"], new.Owns t other →
      t = .failFast ∧ other = "Enforcer_Fail_Fast" := by
    cases t <;> decide
  exact one name given own

theorem environment_moves_switches_mixed_case :
    (new.load ⟨lone "/w/enforcer.toml" (switchOn .skip), mixedCase⟩).2 =
        .ok { Config.default with skip := true, failFast := true } ∧
      (new.load ⟨lone "/w/enforcer.toml" (switchOn .skip), ∅⟩).2 = .ok { Config.default with skip := true } ∧
      ({ Config.default with skip := true, failFast := true } : Config).toggle .skip =
        ({ Config.default with skip := true } : Config).toggle .skip ∧
      (∃ fields, new.Holds (lone "/w/enforcer.toml" (switchOn .skip)) fields ∧
        new.Follows mixedCase fields .failFast true) ∧
      ∃ d, (new.load ⟨lone "/w/enforcer.toml" (switchOn .skip), mixedCase⟩).2 = .ok d := by
  have loads : (new.load ⟨lone "/w/enforcer.toml" (switchOn .skip), mixedCase⟩).2 =
      .ok { Config.default with skip := true, failFast := true } :=
    (load_ok_iff _ _ _ _).2 ⟨_, holds_lone, decode_merge_iff.1 rfl, nofun, .info, rfl⟩
  have loads' : (new.load ⟨lone "/w/enforcer.toml" (switchOn .skip), ∅⟩).2 =
      .ok { Config.default with skip := true } :=
    (load_ok_iff _ _ _ _).2 ⟨_, holds_lone, decode_merge_iff.1 rfl, nofun, .info, rfl⟩
  have skips : ∀ name, new.Owns .skip name → mixedCase.get? name = (∅ : Dict String).get? name := by
    intro name own
    by_contra set
    cases (owns_mixedCase own set).1
  have single : new.Single mixedCase .failFast :=
    fun name name' own own' set set' => (owns_mixedCase own set).2.trans (owns_mixedCase own' set').2.symm
  have spelled : ∀ t name text, new.Owns t name → mixedCase.get? name = some text →
      ∃ flag, EnvironmentValue.Spells text flag := by
    intro t name text own held
    obtain ⟨-, rfl⟩ := owns_mixedCase own (by simp [held])
    obtain rfl := Option.some.inj (held.symm.trans (rfl : mixedCase.get? "Enforcer_Fail_Fast" = some " true "))
    exact ⟨true, [' '], [' '], by simp [EnvironmentValue.isSpace], rfl⟩
  obtain ⟨two, one, bare⟩ := environment_moves_switches new (lone "/w/enforcer.toml" (switchOn .skip))
  obtain ⟨-, -, -, -, toggles⟩ := two mixedCase ∅ _ _ loads loads'
  obtain ⟨-, fields, holds, follows⟩ := one mixedCase _ loads
  exact ⟨loads, loads', toggles .skip skips, ⟨fields, holds, follows .failFast single⟩,
    bare mixedCase _ loads' spelled⟩

/-- A blank in front of its name does not keep a variable from setting a switch. -/
theorem switches_by_padded_name :
    let files : FileSystem := ⟨"/", fun _ => none⟩
    let environment : Dict String := .ofList [(" ENFORCER_SKIP", "true")]
    let c : Config := { Config.default with skip := true }
    (new.load ⟨files, environment⟩).2 = .ok c ∧ (new.load ⟨files, ∅⟩).2 = .ok Config.default ∧
      (∀ name, lowered name = lowered "ENFORCER_SKIP" → environment.get? name = none) ∧ new.Holds files ∅ ∧
        c.toggle .skip ≠ Config.default.toggle .skip := by
  refine ⟨rfl, rfl, fun name same => ?_, ⟨none, rfl, rfl⟩, by decide⟩
  have other : name ≠ " ENFORCER_SKIP" := by
    rintro rfl
    exact absurd same (by decide)
  rw [Dict.ofList, Dict.get?_insertAll]
  simp [beq_false_of_ne other]

end Loader

end BuildGate
