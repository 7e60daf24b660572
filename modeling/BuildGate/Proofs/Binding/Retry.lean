import BuildGate.Proofs.Binding.Coercion
import BuildGate.Proofs.Document.Fields
import BuildGate.Rule.FileList
import BuildGate.Rule.SizeLimit

namespace BuildGate

open Value

variable {σ α : Type}

def Field.Rigid (g : Value → Value) (field : Field σ) : Prop :=
  ∀ v w s t before after, field.read v s = .ok t → Respelled v w → field.read (g w) before = .ok after → g w = v

theorem Field.rigid_of {g : Value → Value} {name : String} {required : Bool} {decode : Value → Decoded α}
    {put : α → σ → σ} (rigid : Decode.Rigid g decode) : (Field.of name required decode put).Rigid g := by
  intro v w s t before after read respelled again
  obtain ⟨a, first, -⟩ := Field.read_of_ok read
  obtain ⟨b, second, -⟩ := Field.read_of_ok again
  exact rigid v w a b first respelled second

namespace Schema

variable {schema : Schema σ} {tree texts : Params} {s t : σ} {g : Value → Value}

/-- The parameters decode to this record under a condition. Otherwise the fault of the first attempt is
    reported. -/
inductive DecodesIff (schema : Schema σ) (params : Params) (s : σ) (condition : Prop) : Prop
  | decodes (holds : condition) (decoded : schema.decodeParams params = .ok s)
  | fails {e : DecodeError} (misses : ¬ condition) (strict : schema.decode (.ofDict params) = .error e)
      (reported : schema.decodeParams params = .error (.decode e))

theorem DecodesIff.congr {params : Params} {p q : Prop} (decodes : schema.DecodesIff params s p) (same : p ↔ q) :
    schema.DecodesIff params s q :=
  propext same ▸ decodes

theorem Accepts.restored (rigid : ∀ field ∈ schema.fields, field.Rigid g) {key : String} {v w : Value}
    (accepted : schema.Accepts key v) (respelled : Respelled v w) (again : schema.Accepts key (g w)) : g w = v := by
  obtain ⟨field, found, s, t, read⟩ := accepted
  obtain ⟨other, alsoFound, before, after, reread⟩ := again
  obtain rfl : field = other := Option.some.inj (found.symm.trans alsoFound)
  exact rigid field (List.mem_of_find?_eq_some found) v w s t before after read respelled reread

theorem mapValues_of_decode (closed : schema.closed = true) (rigid : ∀ field ∈ schema.fields, field.Rigid g)
    (strict : schema.decode (.ofDict tree) = .ok s) (respelled : Respelled (ofDict tree) (ofDict texts))
    (again : schema.decode (.ofDict (texts.mapValues g)) = .ok t) : texts.mapValues g = tree := by
  apply Dict.ext_get?
  intro key
  have related := respelled.get? key
  have before : ∀ v, tree.get? key = some v → schema.Accepts key v := fun v => accepts_of_decode closed strict
  have after : ∀ w, texts.get? key = some w → schema.Accepts key (g w) := by
    intro w written
    exact accepts_of_decode closed again (by rw [Dict.get?_mapValues, written, Option.map_some])
  rw [Dict.get?_mapValues]
  generalize tree.get? key = given at related before ⊢
  generalize texts.get? key = written at related after ⊢
  cases related with
  | none => rfl
  | some related => rw [Option.map_some, (before _ rfl).restored rigid related (after _ rfl)]

theorem decodeParams_restored (closed : schema.closed = true)
    (rigid : ∀ g, Reading g → ∀ field ∈ schema.fields, field.Rigid g)
    (strict : schema.decode (.ofDict tree) = .ok s) (respelled : Respelled (ofDict tree) (ofDict texts)) :
    schema.DecodesIff texts s (texts = tree ∨ texts.mapValues coerce = tree) := by
  -- The first attempt reads the texts as they are, the second one by their spelling.
  have kept : ∀ t, schema.decode (.ofDict texts) = .ok t → texts = tree := by
    intro t again
    rw [← texts.mapValues_id] at again ⊢
    exact mapValues_of_decode closed (rigid id reading_id) strict respelled again
  have restored : ∀ t, schema.decode (ofDict texts).coerce = .ok t → texts.mapValues coerce = tree := by
    intro t again
    rw [coerce_ofDict] at again
    exact mapValues_of_decode closed (rigid coerce reading_coerce) strict respelled again
  cases first : schema.decode (.ofDict texts) with
  | ok t =>
    have same := kept t first
    obtain rfl : s = t := by
      rw [same, strict] at first
      exact Except.ok.inj first
    exact .decodes (.inl same) (by simp [decodeParams, first])
  | error e =>
    have changed : texts ≠ tree := by
      rintro rfl
      rw [strict] at first
      cases first
    cases second : schema.decode (ofDict texts).coerce with
    | ok t =>
      have same := restored t second
      obtain rfl : s = t := by
        rw [coerce_ofDict, same, strict] at second
        exact Except.ok.inj second
      exact .decodes (.inr same) (by simp [decodeParams, first, second])
    | error e' =>
      have lost : texts.mapValues coerce ≠ tree := by
        intro same
        rw [coerce_ofDict, same, strict] at second
        cases second
      exact .fails (not_or.2 ⟨changed, lost⟩) first (by simp [decodeParams, first, second])

theorem mapValues_eq_iff (closed : schema.closed = true) (strict : schema.decode (.ofDict tree) = .ok s)
    (respelled : Respelled (ofDict tree) (ofDict texts)) (g : Value → Value) :
    texts.mapValues g = tree ↔ ∀ name ∈ schema.names, (texts.get? name).map g = tree.get? name := by
  constructor
  · rintro rfl name -
    rw [Dict.get?_mapValues]
  · intro named
    apply Dict.ext_get?
    intro key
    rw [Dict.get?_mapValues]
    by_cases known : key ∈ schema.names
    · exact named key known
    · have related := respelled.get? key
      have absent : tree.get? key = none := by
        cases given : tree.get? key with
        | none => rfl
        | some v =>
          obtain ⟨field, found, -⟩ := accepts_of_decode closed strict given
          have name : field.name = key := by simpa using List.find?_some found
          exact absurd (List.mem_map.2 ⟨field, List.mem_of_find?_eq_some found, name⟩) known
      rw [absent] at related ⊢
      cases written : texts.get? key with
      | none => rfl
      | some w =>
        rw [written] at related
        cases related

namespace Given

variable {name : String} {decode : Value → Decoded α} {first last : α}

theorem textual {plain : α → Prop} (given : Given tree name decode first last)
    (related : Option.Rel Respelled (tree.get? name) (texts.get? name)) (textual : Decode.Textual decode plain)
    (vacuous : plain first) :
    texts.get? name = tree.get? name ∧ ((texts.get? name).map coerce = tree.get? name ↔ plain last) := by
  generalize texts.get? name = written at related ⊢
  cases given with
  | absent none kept =>
    subst kept
    rw [none] at related ⊢
    cases related
    simpa using vacuous
  | @present v given decoded =>
    rw [given] at related ⊢
    cases related with
    | some related =>
      obtain ⟨rfl, plain⟩ := textual v _ last decoded related
      simpa using plain

theorem scalar {readable : α → Prop} (given : Given tree name decode first last)
    (related : Option.Rel Respelled (tree.get? name) (texts.get? name)) (scalar : Decode.Scalar decode readable) :
    texts.get? name = tree.get? name ∨ ((texts.get? name).map coerce = tree.get? name ↔ readable last) := by
  generalize texts.get? name = written at related ⊢
  cases given with
  | absent none kept =>
    rw [none] at related ⊢
    cases related
    exact .inl rfl
  | @present v given decoded =>
    rw [given] at related ⊢
    cases related with
    | some related => simpa using scalar v _ last decoded related

end Given

namespace Component

variable {name : String} {decode : Value → Decoded α} {get : σ → α}

theorem textual {plain : α → Prop} (component : schema.Component name decode get)
    (strict : schema.decode (.ofDict tree) = .ok s) (respelled : Respelled (ofDict tree) (ofDict texts))
    (textual : Decode.Textual decode plain) (vacuous : plain (get schema.initial)) :
    texts.get? name = tree.get? name ∧
      ((texts.get? name).map coerce = tree.get? name ↔ plain (get s)) :=
  (component.of_decode strict).textual (respelled.get? name) textual vacuous

theorem scalar {readable : α → Prop} (component : schema.Component name decode get)
    (strict : schema.decode (.ofDict tree) = .ok s) (respelled : Respelled (ofDict tree) (ofDict texts))
    (scalar : Decode.Scalar decode readable) :
    texts.get? name = tree.get? name ∨
      ((texts.get? name).map coerce = tree.get? name ↔ readable (get s)) :=
  (component.of_decode strict).scalar (respelled.get? name) scalar

end Component

end Schema

theorem plain_empty : Plain "" := (ofSpelling_eq_text_iff "").1 rfl

namespace SizeLimit

theorem components :
    schema.Component "max_size" Decode.uint64 maxSize ∧ schema.Component "label" Decode.text label := by
  have distinct : schema.names.Nodup := by simp [schema, Schema.names]
  refine ⟨?_, ?_⟩ <;>
    exact .of_find? distinct rfl (fun _ _ => rfl) (by simp [schema, Field.of_leaves])

theorem rigid {g : Value → Value} (reading : Reading g) : ∀ field ∈ schema.fields, field.Rigid g := by
  simp [schema, Field.rigid_of, Decode.rigid_uint64 reading, Decode.rigid_text reading]

theorem restored_iff {tree texts : Params} {l : SizeLimit} (strict : schema.decode (.ofDict tree) = .ok l)
    (respelled : Respelled (ofDict tree) (ofDict texts)) :
    (texts = tree ∨ texts.mapValues coerce = tree) ↔
      texts = tree ∨ l.maxSize ≤ Decimal.maxInt64 ∧ Plain l.label := by
  obtain ⟨first, second⟩ := components
  have size := first.scalar strict respelled Decode.scalar_uint64
  have label := second.textual strict respelled Decode.textual_text plain_empty
  have same := Schema.mapValues_eq_iff rfl strict respelled id
  have again := Schema.mapValues_eq_iff rfl strict respelled coerce
  have names : schema.names = ["max_size", "label"] := rfl
  simp only [names, List.forall_mem_cons, List.not_mem_nil, false_implies, implies_true, and_true, Dict.mapValues_id,
    Option.map_id_apply] at same again
  rw [same, again, label.2]
  rcases size with kept | read
  · simp only [kept, label.1, and_self, true_or]
  · rw [read]

end SizeLimit

namespace FileList

theorem components :
    schema.Component "files" (Decode.list (Decode.optional Decode.text)) files ∧
      schema.Component "allow_nulls" Decode.bool allowNulls ∧
      schema.Component "message" (Decode.optional Decode.text) message := by
  have distinct : schema.names.Nodup := by simp [schema, Schema.names]
  refine ⟨?_, ?_, ?_⟩ <;>
    exact .of_find? distinct rfl (fun _ _ => rfl) (by simp [schema, Field.of_leaves])

theorem rigid {g : Value → Value} (reading : Reading g) : ∀ field ∈ schema.fields, field.Rigid g := by
  have text := Decode.rigid_optional reading (Decode.rigid_text reading)
  simp [schema, Field.rigid_of, Decode.rigid_list reading text, Decode.rigid_bool reading, text]

theorem restored_iff {tree texts : Params} {l : FileList} (strict : schema.decode (.ofDict tree) = .ok l)
    (respelled : Respelled (ofDict tree) (ofDict texts)) :
    (texts = tree ∨ texts.mapValues coerce = tree) ↔
      texts = tree ∨ (∀ file ∈ l.files, ∀ name, file = some name → Plain name) ∧
        ∀ message, l.message = some message → Plain message := by
  obtain ⟨first, second, third⟩ := components
  have text := Decode.textual_optional Decode.textual_text
  have files := first.textual strict respelled (Decode.textual_list text) (by simp [schema, empty])
  have nulls := second.scalar strict respelled Decode.scalar_bool
  have message := third.textual strict respelled text (by simp [schema, empty])
  have same := Schema.mapValues_eq_iff rfl strict respelled id
  have again := Schema.mapValues_eq_iff rfl strict respelled coerce
  have names : schema.names = ["files", "allow_nulls", "message"] := rfl
  simp only [names, List.forall_mem_cons, List.not_mem_nil, false_implies, implies_true, and_true, Dict.mapValues_id,
    Option.map_id_apply] at same again
  rw [same, again, files.2, message.2]
  rcases nulls with kept | read
  · simp only [kept, files.1, message.1, and_self, true_or]
  · simp only [read, true_and]

end FileList

/-- The second attempt reads all texts or none, and whole numbers only as far as they fit with a sign. So what was
    written out is understood if every text that stays a text spells nothing else. -/
theorem decodeParams_respelled {tree texts : Params} (respelled : Respelled (ofDict tree) (ofDict texts)) :
    (∀ l, SizeLimit.schema.decode (ofDict tree) = .ok l →
      SizeLimit.schema.DecodesIff texts l (texts = tree ∨ l.maxSize ≤ Decimal.maxInt64 ∧ Plain l.label)) ∧
    ∀ l, FileList.schema.decode (ofDict tree) = .ok l →
      FileList.schema.DecodesIff texts l
        (texts = tree ∨ (∀ file ∈ l.files, ∀ name, file = some name → Plain name) ∧
          ∀ message, l.message = some message → Plain message) := by
  constructor
  · intro l strict
    have decodes := Schema.decodeParams_restored rfl (fun _ => SizeLimit.rigid) strict respelled
    exact decodes.congr (SizeLimit.restored_iff strict respelled)
  · intro l strict
    have decodes := Schema.decodeParams_restored rfl (fun _ => FileList.rigid) strict respelled
    exact decodes.congr (FileList.restored_iff strict respelled)

theorem decodeParams_respelled_core :
    let label : Params := (∅ : Params).insert "label" (.text "core")
    let tree := label.insert "max_size" (.int 10)
    let texts := label.insert "max_size" (.text "10")
    Respelled (ofDict tree) (ofDict texts) ∧ SizeLimit.schema.decode (ofDict tree) = .ok ⟨10, "core"⟩ ∧
      SizeLimit.schema.decodeParams texts = .ok ⟨10, "core"⟩ := by
  intro label tree texts
  have respelled : Respelled (ofDict tree) (ofDict texts) :=
    .record (.cons (.kept _) (.cons (.int 10) .nil))
  have strict : SizeLimit.schema.decode (ofDict tree) = .ok ⟨10, "core"⟩ := rfl
  have core : Plain "core" := (ofSpelling_eq_text_iff "core").1 rfl
  refine ⟨respelled, strict, ?_⟩
  cases (decodeParams_respelled respelled).1 _ strict with
  | decodes _ decoded => exact decoded
  | fails misses => exact absurd (.inr ⟨by decide, core⟩) misses

/-- A label that looks like a number keeps the size from being understood, and so does a size that takes all
    sixty-four bits. -/
theorem not_decodeParams_respelled :
    let label : Params := (∅ : Params).insert "label" (.text "42")
    let tree := label.insert "max_size" (.int 64)
    let texts := label.insert "max_size" (.text "64")
    let large := (∅ : Params).insert "max_size" (.int 18446744073709551615)
    let largeTexts := (∅ : Params).insert "max_size" (.text "18446744073709551615")
    (Respelled (ofDict tree) (ofDict texts) ∧ SizeLimit.schema.decode (ofDict tree) = .ok ⟨64, "42"⟩ ∧
      SizeLimit.schema.decodeParams texts = .error (.decode ⟨.invalidType (.text "64") "u64", ["max_size"]⟩)) ∧
    Respelled (ofDict large) (ofDict largeTexts) ∧
      SizeLimit.schema.decode (ofDict large) = .ok ⟨18446744073709551615, ""⟩ ∧
      SizeLimit.schema.decodeParams largeTexts ≠ .ok ⟨18446744073709551615, ""⟩ := by
  intro label tree texts large largeTexts
  have written : Respelled (ofDict large) (ofDict largeTexts) := .record (.cons (.int _) .nil)
  have strict : SizeLimit.schema.decode (ofDict large) = .ok ⟨18446744073709551615, ""⟩ := rfl
  have changed : largeTexts ≠ large := by
    intro same
    have value := congrArg (Dict.get? · "max_size") same
    cases value
  refine ⟨⟨.record (.cons (.kept _) (.cons (.int 64) .nil)), rfl, rfl⟩, written, strict, ?_⟩
  cases Schema.decodeParams_restored rfl (fun _ => SizeLimit.rigid) strict written with
  | decodes holds _ =>
    have small := ((SizeLimit.restored_iff strict written).1 holds).resolve_left changed
    exact absurd small.1 (by decide)
  | fails _ _ reported =>
    rw [reported]
    nofun

end BuildGate
