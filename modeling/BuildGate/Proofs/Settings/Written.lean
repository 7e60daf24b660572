import BuildGate.Proofs.Document.Written
import BuildGate.Proofs.Sequence.Kept
import BuildGate.Proofs.Settings.Declarations
import BuildGate.Settings.Config

namespace BuildGate

namespace Logging

theorem components (b : Bool) :
    (schema b).Component "level" Decode.text level ∧ (schema b).Component "json_format" Decode.bool jsonFormat ∧
      (schema b).Component "file_output" (Decode.optional Decode.pathText) fileOutput := by
  have distinct : (schema b).names.Nodup := by simp [schema, Schema.names]
  refine ⟨?_, ?_, ?_⟩ <;>
    exact .of_find? distinct rfl (fun _ _ => rfl) (by simp [schema, Field.of_leaves])

def written (l : Logging) : List (String × Value) :=
  [("level", .text l.level), ("json_format", .bool l.jsonFormat),
    ("file_output", (l.fileOutput.map Value.text).getD .null)]

theorem decode_fileOutput (file : Option String) :
    Decode.optional Decode.pathText ((file.map Value.text).getD .null) = .ok file := by
  cases file <;> rfl

theorem decode_toValue (b : Bool) (l : Logging) : (schema b).decode l.toValue = .ok l := by
  have level : Decode.text (.text l.level) = .ok l.level := rfl
  have jsonFormat : Decode.bool (.bool l.jsonFormat) = .ok l.jsonFormat := rfl
  have fileOutput := decode_fileOutput l.fileOutput
  have each : ∀ entry ∈ l.written, ∀ s, ∃ t, (schema b).Passes entry.1 entry.2 s t := by
    simp only [written, List.forall_mem_cons, List.not_mem_nil, false_implies, implies_true, and_true]
    exact ⟨Schema.passes_of_decode rfl level, Schema.passes_of_decode rfl jsonFormat,
      Schema.passes_of_decode rfl fileOutput⟩
  obtain ⟨read, decoded⟩ := Schema.exists_decode (by simp [schema, Field.of]) each
  have distinct : (l.written.map Prod.fst).Nodup := by simp [written]
  have same : read = l := by
    obtain ⟨first, second, third⟩ := components b
    obtain ⟨a, b', c⟩ := read
    obtain rfl := first.restored distinct decoded (by simp [written]) level
    obtain rfl := second.restored distinct decoded (by simp [written]) jsonFormat
    obtain rfl := third.restored distinct decoded (by simp [written]) fileOutput
    rfl
  exact decoded.trans (congrArg Except.ok same)

end Logging

namespace Config

theorem toggle_setToggle (t u : Toggle) (on : Bool) (c : Config) :
    (c.setToggle t on).toggle u = if u = t then on else c.toggle u := by
  cases t <;> cases u <;> rfl

theorem key_inj {t u : Toggle} (same : t.key = u.key) : t = u := by
  cases t <;> cases u <;> first | rfl | simp [Toggle.key] at same

theorem forall_fields {b : Bool} {P : Field Config → Prop}
    (switches : ∀ t : Toggle, P (.of t.key false Decode.bool (setToggle t)))
    (others : ∀ field ∈ (schema b).fields.drop 5, P field) : ∀ field ∈ (schema b).fields, P field := by
  rw [← List.take_append_drop 5 (schema b).fields, List.forall_mem_append]
  refine ⟨?_, others⟩
  simp [schema, Toggle.all, switches]

theorem names_nodup (b : Bool) : (schema b).names.Nodup := by
  simp [schema, Schema.names, Toggle.all, Toggle.key]

theorem find?_toggle (b : Bool) (t : Toggle) :
    (schema b).find? t.key = some (.of t.key false Decode.bool (setToggle t)) := by
  cases t <;> rfl

theorem component_toggle (b : Bool) (t : Toggle) : (schema b).Component t.key Decode.bool (·.toggle t) := by
  refine .of_find? (names_nodup b) (find?_toggle b t) (fun on c => by rw [toggle_setToggle, if_pos rfl]) ?_
  refine forall_fields (fun u apart => ?_) (by cases t <;> simp [schema, Toggle.all, Field.of_leaves, toggle])
  have other : t ≠ u := by
    rintro rfl
    exact apart rfl
  exact Field.of_leaves fun on c => by rw [toggle_setToggle, if_neg other]

theorem components (b : Bool) :
    (schema b).Component "skip_rules" (Decode.list Decode.text) skipRules ∧
      (schema b).Component "properties" (Decode.dict Decode.text) properties ∧
      (schema b).Component "rules" (Decode.list Declaration.decode) rules ∧
      (schema b).Component "logging" (Logging.schema b).decode logging := by
  refine ⟨?_, ?_, ?_, ?_⟩ <;>
    exact .of_find? (names_nodup b) rfl (fun _ _ => rfl)
      (forall_fields (fun t _ => Field.of_leaves fun on c => by cases t <;> rfl)
        (by simp [schema, Toggle.all, Field.of_leaves]))

def written (c : Config) : List (String × Value) :=
  (Toggle.all.map fun t => (t.key, .bool (c.toggle t))) ++ [
    ("skip_rules", .list (c.skipRules.map .text)), ("properties", .ofDict (c.properties.mapValues .text)),
    ("rules", .list (c.rules.map Declaration.toValue)), ("logging", c.logging.toValue)]

theorem mem_written_toggle (c : Config) (t : Toggle) : (t.key, .bool (c.toggle t)) ∈ c.written := by
  cases t <;> simp [written, Toggle.all]

theorem ext_toggle {c e : Config} (toggles : ∀ t, c.toggle t = e.toggle t) (skipRules : c.skipRules = e.skipRules)
    (properties : c.properties = e.properties) (rules : c.rules = e.rules) (logging : c.logging = e.logging) :
    c = e := by
  obtain ⟨⟩ := c
  obtain ⟨⟩ := e
  have skip := toggles .skip
  have failBuild := toggles .failBuild
  have failFast := toggles .failFast
  have ignoreCache := toggles .ignoreCache
  have failIfNoRules := toggles .failIfNoRules
  simp_all [toggle]

theorem decode_toValue {c : Config} (proper : ∀ d ∈ c.rules, d.Proper) : decode c.toValue = .ok c := by
  have toggles : ∀ t, Decode.bool (.bool (c.toggle t)) = .ok (c.toggle t) := fun _ => rfl
  have skipRules : Decode.list Decode.text (.list (c.skipRules.map .text)) = .ok c.skipRules :=
    Decode.list_map fun _ _ => rfl
  have properties : Decode.dict Decode.text (.ofDict (c.properties.mapValues .text)) = .ok c.properties :=
    Decode.dict_mapValues (fun x => (rfl : Decode.text (.text x) = .ok x)) c.properties
  have rules : Decode.list Declaration.decode (.list (c.rules.map Declaration.toValue)) = .ok c.rules :=
    Decode.list_map fun d member => (proper d member).decode_toValue
  have logging := Logging.decode_toValue true c.logging
  have each : ∀ entry ∈ c.written, ∀ s, ∃ t, (schema true).Passes entry.1 entry.2 s t := by
    simp only [written, List.forall_mem_append, List.forall_mem_map, List.forall_mem_cons, List.not_mem_nil,
      false_implies, implies_true, and_true]
    exact ⟨fun t _ => Schema.passes_of_decode (find?_toggle true t) (toggles t),
      Schema.passes_of_decode rfl skipRules, Schema.passes_of_decode rfl properties,
      Schema.passes_of_decode rfl rules, Schema.passes_of_decode rfl logging⟩
  have optional : ∀ field ∈ (schema true).fields, field.required = false :=
    forall_fields (fun _ => rfl) (by simp [schema, Toggle.all, Field.of])
  obtain ⟨read, decoded⟩ := Schema.exists_decode optional each
  have distinct : (c.written.map Prod.fst).Nodup := by simp [written, Toggle.all, Toggle.key]
  have same : read = c := by
    obtain ⟨first, second, third, fourth⟩ := components true
    apply ext_toggle
    · exact fun t => (component_toggle true t).restored distinct decoded (mem_written_toggle c t) (toggles t)
    · exact first.restored distinct decoded (by simp [written]) skipRules
    · exact second.restored distinct decoded (by simp [written]) properties
    · exact third.restored distinct decoded (by simp [written]) rules
    · exact fourth.restored distinct decoded (by simp [written]) logging
  exact decoded.trans (congrArg Except.ok same)

def rulesIn (v : Value) : Option Value := ((schema true).fieldsIn v).lookup "rules"

theorem fieldsIn_document {v : Value} (whole : v.IsDocument) :
    (((schema true).fieldsIn v).map Prod.fst).Nodup ∧ ∀ field ∈ (schema true).fieldsIn v, field.2.IsDocument := by
  cases v with
  | record fields => exact ⟨Dict.keys_nodup ⟨fields, whole.ordered.1⟩, fun field member => whole.field member⟩
  | list items =>
    exact ⟨(names_nodup true).sublist (map_fst_zip_sublist _ items),
      fun field member => whole.item (List.of_mem_zip member).2⟩
  | _ => exact ⟨.nil, by simp [Schema.fieldsIn]⟩

theorem rules_of_decode {v : Value} {c : Config} (whole : v.IsDocument) (decoded : decode v = .ok c) :
    (rulesIn v).elim (c.rules = []) fun given => ∃ items, given = .list items ∧
      List.Forall₂ (fun item d => d.Restores item ∧ d.Proper) items c.rules := by
  obtain ⟨distinct, documents⟩ := fieldsIn_document whole
  have held := (components true).2.2.1.of_fieldsIn (names_nodup true) distinct decoded
  unfold rulesIn
  cases found : ((schema true).fieldsIn v).lookup "rules" with
  | none =>
    rw [found] at held
    exact held
  | some given =>
    rw [found] at held
    obtain ⟨items, rfl, each⟩ := Decode.exists_items_of_list held
    obtain ⟨before, after, split, -⟩ := List.lookup_eq_some_iff.1 found
    have document := documents ("rules", .list items) (by simp [split])
    refine ⟨items, rfl, ?_⟩
    refine (List.forall₂_iff_zip.1 (Decode.forall₂_of_items each)).elim fun sameLength zipped => ?_
    rw [List.forall₂_iff_zip]
    refine ⟨sameLength, fun {item d} member => ?_⟩
    exact Declaration.restores_of_decode (document.item (List.of_mem_zip member).1) (zipped member)

theorem proper_of_decode {v : Value} {c : Config} (whole : v.IsDocument) (decoded : decode v = .ok c) :
    ∀ d ∈ c.rules, d.Proper := by
  have rules := rules_of_decode whole decoded
  cases found : rulesIn v with
  | none =>
    rw [found] at rules
    simp [show c.rules = [] from rules]
  | some given =>
    rw [found] at rules
    obtain ⟨items, -, each⟩ := rules
    have swapped : List.Forall₂ (fun d item => d.Proper ∧ d.Restores item) c.rules items :=
      each.flip.imp fun _ _ related => related.symm
    exact ((List.forall₂_and_left _ _).1 swapped).1

end Config

/-- A declaration that was read is written as the record it was read from, save for an implementation that is
    null, and its parameters hold neither its name nor its implementation. Settings that were read are read again as
    they are, and their rules are the records that were given, in the same order. -/
theorem survives_writing :
    (∀ v d, v.IsDocument → Declaration.decode v = .ok d →
      d.Restores v ∧ d.config.get? "name" = none ∧ d.config.get? "implementation" = none ∧
        Declaration.decode d.toValue = .ok d) ∧
    (∀ v c, v.IsDocument → Config.decode v = .ok c →
      Config.decode c.toValue = .ok c ∧
        (Config.rulesIn v).elim (c.rules = []) fun given =>
          ∃ items, given = .list items ∧ List.Forall₂ (fun item d => d.Restores item) items c.rules) := by
  constructor
  · intro v d whole decoded
    obtain ⟨restores, proper⟩ := Declaration.restores_of_decode whole decoded
    exact ⟨restores, proper.lacks rfl, proper.lacks rfl, proper.decode_toValue⟩
  · intro v c whole decoded
    refine ⟨Config.decode_toValue (Config.proper_of_decode whole decoded), ?_⟩
    have rules := Config.rules_of_decode whole decoded
    cases found : Config.rulesIn v with
    | none =>
      rw [found] at rules
      exact rules
    | some given =>
      rw [found] at rules
      obtain ⟨items, listed, each⟩ := rules
      exact ⟨items, listed, each.imp fun _ _ related => related.1⟩

theorem survives_writing_warning :
    let rule := Value.record [("implementation", .null), ("level", .text "WARN"), ("name", .text "check")]
    let v := Value.record [("extra", .int 1), ("rules", .list [rule])]
    ∃ d c, rule.IsDocument ∧ Declaration.decode rule = .ok d ∧ Declaration.decode d.toValue = .ok d ∧
      v.IsDocument ∧ Config.decode v = .ok c ∧ Config.decode c.toValue = .ok c := by
  intro rule v
  have keys : ["implementation", "level", "name"].Pairwise (· < ·) ∧ ["extra", "rules"].Pairwise (· < ·) := by decide
  have one : rule.IsDocument :=
    ⟨⟨keys.1, trivial, trivial, trivial, trivial⟩, ⟨trivial, trivial, trivial, trivial⟩⟩
  have whole : v.IsDocument :=
    ⟨⟨keys.2, trivial, ⟨one.ordered, trivial⟩, trivial⟩, ⟨trivial, ⟨one.finite, trivial⟩, trivial⟩⟩
  obtain ⟨declarations, configs⟩ := survives_writing
  have read : Declaration.decode rule = .ok ⟨"check", none, .ofList [("level", .text "WARN")]⟩ := rfl
  have loaded : ∃ c, Config.decode v = .ok c := ⟨_, rfl⟩
  obtain ⟨c, decoded⟩ := loaded
  exact ⟨_, c, one, read, (declarations rule _ one read).2.2.2, whole, decoded, (configs v c whole decoded).1⟩

end BuildGate
