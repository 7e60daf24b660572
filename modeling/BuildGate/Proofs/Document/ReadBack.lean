import Mathlib.Data.List.DropRight
import BuildGate.Proofs.Dict.Lookup
import BuildGate.Proofs.Document.Finite
import BuildGate.Proofs.Document.Literals
import BuildGate.Proofs.Document.Printed

namespace BuildGate.Value

mutual

/-- Whole numbers fit into sixty-four bits, signed or not, and the text of every other number reads back. -/
def Legible : Value → Prop
  | .int number => Decimal.minInt64 ≤ number ∧ number ≤ Decimal.maxUInt64
  | .float number => Reader.numberOf? (Decimal.Layout.document.render number).toList = some (.float number)
  | .list items => LegibleItems items
  | .record fields => LegibleFields fields
  | _ => True

def LegibleItems : List Value → Prop
  | [] => True
  | item :: items => item.Legible ∧ LegibleItems items

def LegibleFields : List (String × Value) → Prop
  | [] => True
  | field :: fields => field.2.Legible ∧ LegibleFields fields

end

mutual

/-- The value with the fields of each record in key order; of several with one key the last one counts. -/
def arranged : Value → Value
  | .list items => .list (arrangedItems items)
  | .record fields => .ofDict (.ofList (arrangedFields fields))
  | .null => .null
  | .bool flag => .bool flag
  | .int number => .int number
  | .float number => .float number
  | .text content => .text content

def arrangedItems : List Value → List Value
  | [] => []
  | item :: items => item.arranged :: arrangedItems items

def arrangedFields : List (String × Value) → List (String × Value)
  | [] => []
  | (key, v) :: fields => (key, v.arranged) :: arrangedFields fields

end

mutual

theorem arranged_eq_self : ∀ v : Value, v.Ordered → v.arranged = v
  | .list items, ordered => by rw [arranged, arrangedItems_eq_self items ordered]
  | .record fields, ordered => by
    have same := arrangedFields_eq_self fields ordered.2
    rw [arranged, same, ofDict, Dict.entries_ofList ordered.1]
  | .null, _ | .bool _, _ | .int _, _ | .float _, _ | .text _, _ => rfl

theorem arrangedItems_eq_self : ∀ items : List Value, OrderedList items → arrangedItems items = items
  | [], _ => rfl
  | item :: items, ordered => by
    rw [arrangedItems, arranged_eq_self item ordered.1, arrangedItems_eq_self items ordered.2]

theorem arrangedFields_eq_self :
    ∀ fields : List (String × Value), OrderedFields fields → arrangedFields fields = fields
  | [], _ => rfl
  | (key, v) :: fields, ordered => by
    rw [arrangedFields, arranged_eq_self v ordered.1, arrangedFields_eq_self fields ordered.2]

end

namespace Reader

theorem skipSpace_append {blanks : List Char} (blank : Blank blanks) (cs : List Char) :
    skipSpace (blanks ++ cs) = skipSpace cs :=
  List.dropWhile_append_of_pos blank

theorem skipSpace_skipSpace (cs : List Char) : skipSpace (skipSpace cs) = skipSpace cs :=
  List.dropWhile_idempotent isSpace cs

theorem skipSpace_cons {c : Char} (solid : isSpace c = false) (cs : List Char) : skipSpace (c :: cs) = c :: cs := by
  simp [skipSpace, solid]

theorem value_skipSpace (fuel : Nat) (cs : List Char) : value fuel (skipSpace cs) = value fuel cs := by
  cases fuel with
  | zero => rfl
  | succ fuel => rw [value, value, skipSpace_skipSpace]

theorem items_skipSpace (fuel : Nat) (cs : List Char) : items fuel (skipSpace cs) = items fuel cs := by
  cases fuel with
  | zero => rfl
  | succ fuel => rw [items, items, value_skipSpace]

theorem fields_skipSpace (fuel : Nat) (cs : List Char) : fields fuel (skipSpace cs) = fields fuel cs := by
  cases fuel with
  | zero => rfl
  | succ fuel => rw [fields, fields, skipSpace_skipSpace]

def Ends (rest : List Char) : Prop := ∀ c ∈ rest.head?, isNumberChar c = false

theorem ends_nil : Ends [] := nofun

theorem ends_cons {c : Char} (other : isNumberChar c = false) (rest : List Char) : Ends (c :: rest) := by
  rintro _ ⟨⟩
  exact other

theorem isNumberChar_of_isSpace {c : Char} (space : isSpace c = true) : isNumberChar c = false := by
  simp only [isSpace, Bool.or_eq_true, beq_iff_eq] at space
  rcases space with ((rfl | rfl) | rfl) | rfl <;> rfl

theorem ends_blank {blanks : List Char} (blank : Blank blanks) {c : Char} (other : isNumberChar c = false)
    (rest : List Char) : Ends (blanks ++ c :: rest) := by
  cases blanks with
  | nil => exact ends_cons other rest
  | cons space more => exact ends_cons (isNumberChar_of_isSpace (blank space List.mem_cons_self)) _

theorem span_number {cs rest : List Char} (each : ∀ c ∈ cs, isNumberChar c = true) (ends : Ends rest) :
    (cs ++ rest).takeWhile isNumberChar = cs ∧ (cs ++ rest).dropWhile isNumberChar = rest := by
  rw [List.takeWhile_append_of_pos each, List.dropWhile_append_of_pos each]
  cases rest with
  | nil => simp
  | cons c more =>
    have other := ends c rfl
    simp [other]

theorem value_number {cs rest : List Char} {v : Value} (read : numberOf? cs = some v) (ends : Ends rest)
    (fuel : Nat) : value (fuel + 1) (cs ++ rest) = some (v, rest) := by
  have each := isNumberChar_of_numberOf? read
  obtain ⟨taken, left⟩ := span_number each ends
  obtain ⟨c, more, rfl⟩ := List.exists_cons_of_ne_nil (ne_nil_of_numberOf? read)
  have number := each c List.mem_cons_self
  have solid : isSpace c = false := Bool.eq_false_iff.2 fun space => by
    rw [isNumberChar_of_isSpace space] at number
    cases number
  rw [value, List.cons_append, skipSpace_cons solid]
  -- No other kind of value begins with a number character.
  split
  case h_7 => rw [← List.cons_append, taken, left, read]
  all_goals
    rename_i same
    rw [(List.cons.inj same).1] at number
    exact absurd number (by decide)

theorem stringBody_quoted (content : String) (rest : List Char) :
    ∃ body, quoted content ++ rest = '"' :: body ∧
      stringBody (body.length + 1) [] body = some (content, rest) := by
  refine ⟨content.toList.flatMap escapeChar ++ '"' :: rest, by simp [quoted], ?_⟩
  have enough := length_le_flatMap_escapeChar content.toList
  rw [stringBody_flatMap (by simp only [List.length_append]; omega)]
  simp

theorem value_quoted (fuel : Nat) (content : String) (rest : List Char) :
    value (fuel + 1) (quoted content ++ rest) = some (.text content, rest) := by
  obtain ⟨body, opens, read⟩ := stringBody_quoted content rest
  rw [opens, value, skipSpace_cons rfl]
  simp only [read, Option.map_some]

theorem value_bracket (fuel : Nat) {c : Char} (closing : c = ']' ∨ c = '}') (rest : List Char) :
    value fuel (c :: rest) = none := by
  cases fuel with
  | zero => rfl
  | succ fuel => rcases closing with rfl | rfl <;> rfl

theorem value_list {fuel : Nat} {cs rest : List Char} {vs : List Value} (read : items fuel cs = some (vs, rest)) :
    value (fuel + 1) ('[' :: cs) = some (.list vs, rest) := by
  rw [← items_skipSpace] at read
  rw [value, skipSpace_cons rfl]
  simp only
  split
  · rename_i first
    rw [first] at read
    cases fuel with
    | zero => cases read
    | succ fuel => simp [items, value_bracket] at read
  · rw [read, Option.map_some]

theorem value_record {fuel : Nat} {cs rest : List Char} {fs : List (String × Value)}
    (read : fields fuel cs = some (fs, rest)) : value (fuel + 1) ('{' :: cs) = some (.ofDict (.ofList fs), rest) := by
  rw [← fields_skipSpace] at read
  rw [value, skipSpace_cons rfl]
  simp only
  split
  · rename_i first
    rw [first] at read
    cases fuel with
    | zero => cases read
    | succ fuel => cases read
  · rw [read, Option.map_some]

theorem items_last {fuel : Nat} {cs after rest : List Char} {v : Value} (read : value fuel cs = some (v, after))
    (closes : skipSpace after = ']' :: rest) : items (fuel + 1) cs = some ([v], rest) := by
  simp only [items, read, closes]

theorem items_more {fuel : Nat} {cs after next rest : List Char} {v : Value} {vs : List Value}
    (read : value fuel cs = some (v, after)) (comma : skipSpace after = ',' :: next)
    (later : items fuel next = some (vs, rest)) : items (fuel + 1) cs = some (v :: vs, rest) := by
  simp only [items, read, comma, later, Option.map_some]

def ReadsField (fuel : Nat) (cs : List Char) (field : String × Value) (rest : List Char) : Prop :=
  ∃ body spelled, skipSpace cs = '"' :: body ∧
    stringBody (body.length + 1) [] body = some (field.1, ':' :: spelled) ∧ value fuel spelled = some (field.2, rest)

theorem fields_last {fuel : Nat} {cs after rest : List Char} {field : String × Value}
    (read : ReadsField fuel cs field after) (closes : skipSpace after = '}' :: rest) :
    fields (fuel + 1) cs = some ([field], rest) := by
  obtain ⟨body, spelled, first, name, second⟩ := read
  have colon : skipSpace (':' :: spelled) = ':' :: spelled := rfl
  simp only [fields, first, name, colon, second, closes]

theorem fields_more {fuel : Nat} {cs after next rest : List Char} {field : String × Value}
    {fs : List (String × Value)} (read : ReadsField fuel cs field after) (comma : skipSpace after = ',' :: next)
    (later : fields fuel next = some (fs, rest)) : fields (fuel + 1) cs = some (field :: fs, rest) := by
  obtain ⟨body, spelled, first, name, second⟩ := read
  have colon : skipSpace (':' :: spelled) = ':' :: spelled := rfl
  simp only [fields, first, name, colon, second, comma, later, Option.map_some]

theorem readsField {fuel : Nat} {key : String} {v : Value} {spelled rest : List Char}
    (read : value fuel spelled = some (v, rest)) :
    ReadsField fuel (quoted key ++ ':' :: spelled) (key, v) rest := by
  obtain ⟨body, opens, name⟩ := stringBody_quoted key (':' :: spelled)
  exact ⟨body, spelled, by rw [opens, skipSpace_cons rfl], name, read⟩

theorem skipSpace_blank {blanks : List Char} (blank : Blank blanks) {c : Char} (solid : isSpace c = false)
    (rest : List Char) : skipSpace (blanks ++ c :: rest) = c :: rest := by
  rw [skipSpace_append blank, skipSpace_cons solid]

theorem value_numeral {cs rest : List Char} {v : Value} (read : numberOf? cs = some v) {fuel : Nat}
    (enough : 2 * cs.length ≤ fuel) (ends : Ends rest) : value fuel (cs ++ rest) = some (v, rest) := by
  have nonempty := List.length_pos_iff.2 (ne_nil_of_numberOf? read)
  obtain ⟨fuel, rfl⟩ := Nat.exists_eq_add_one_of_ne_zero (by omega : fuel ≠ 0)
  exact value_number read ends fuel

mutual

theorem value_of_prints : ∀ {v : Value} {cs : List Char}, Prints v cs → v.Legible → ∀ {fuel : Nat},
    2 * cs.length ≤ fuel → ∀ {rest : List Char}, Ends rest → value fuel (cs ++ rest) = some (v.arranged, rest)
  | _, _, .null, _, fuel + 1, _, _, _ => rfl
  | _, _, .true, _, fuel + 1, _, _, _ => rfl
  | _, _, .false, _, fuel + 1, _, _, _ => rfl
  | _, _, .emptyList, _, fuel + 1, _, _, _ => rfl
  | _, _, .emptyRecord, _, fuel + 1, _, _, _ => rfl
  | _, _, .int number, legible, _, enough, _, ends => value_numeral (numberOf?_toString legible) enough ends
  | _, _, .float number, legible, _, enough, _, ends => value_numeral legible enough ends
  | _, _, .text content, _, fuel + 1, _, _, _ => value_quoted fuel content _
  | _, _, .list parts, legible, fuel + 1, enough, rest, _ =>
    value_list (items_of_prints parts legible (by simp at enough; omega) rest)
  | _, _, .record parts, legible, fuel + 1, enough, rest, _ =>
    value_record (fields_of_prints parts legible (by simp at enough; omega) rest)
  | _, _, .indented blank prints, legible, fuel, enough, rest, ends => by
    rw [List.append_assoc, ← value_skipSpace, skipSpace_append blank, value_skipSpace]
    exact value_of_prints prints legible (by simp at enough; omega) ends

theorem readsField_of_prints : ∀ {field : String × Value} {cs : List Char}, PrintsField field cs →
    field.2.Legible → ∀ {fuel : Nat}, 2 * cs.length ≤ fuel → ∀ {rest : List Char}, Ends rest →
    ReadsField fuel (cs ++ rest) (field.1, field.2.arranged) rest
  | _, _, .named prints, legible, fuel, enough, rest, ends => by
    have read := value_of_prints prints legible (by simp at enough; omega : _ ≤ fuel) ends
    simpa using readsField read
  | _, _, .indented blank prints, legible, fuel, enough, rest, ends => by
    have read := readsField_of_prints prints legible (by simp at enough; omega : _ ≤ fuel) ends
    rwa [ReadsField, List.append_assoc, skipSpace_append blank]

theorem items_of_prints : ∀ {vs : List Value} {cs : List Char}, PrintsItems vs cs → LegibleItems vs →
    ∀ {fuel : Nat}, 2 * cs.length ≤ fuel → ∀ rest : List Char,
      items fuel (cs ++ rest) = some (arrangedItems vs, rest)
  | _, _, .last prints blank, legible, fuel, enough, rest => by
    obtain ⟨fuel, rfl⟩ := Nat.exists_eq_add_one_of_ne_zero (by simp at enough; omega : fuel ≠ 0)
    have read := value_of_prints prints legible.1 (by simp at enough; omega : _ ≤ fuel)
      (ends_blank (c := ']') blank rfl rest)
    simpa [arrangedItems] using items_last read (skipSpace_blank blank rfl rest)
  | _, _, @PrintsItems.more _ _ _ _ next prints later, legible, fuel, enough, rest => by
    obtain ⟨fuel, rfl⟩ := Nat.exists_eq_add_one_of_ne_zero (by simp at enough; omega : fuel ≠ 0)
    have read := value_of_prints prints legible.1 (by simp at enough; omega : _ ≤ fuel)
      (ends_cons (c := ',') rfl (next ++ rest))
    have others := items_of_prints later legible.2 (by simp at enough; omega : _ ≤ fuel) rest
    simpa [arrangedItems] using items_more read (skipSpace_cons rfl _) others

theorem fields_of_prints : ∀ {fs : List (String × Value)} {cs : List Char}, PrintsFields fs cs → LegibleFields fs →
    ∀ {fuel : Nat}, 2 * cs.length ≤ fuel → ∀ rest : List Char,
      fields fuel (cs ++ rest) = some (arrangedFields fs, rest)
  | _, _, .last prints blank, legible, fuel, enough, rest => by
    obtain ⟨fuel, rfl⟩ := Nat.exists_eq_add_one_of_ne_zero (by simp at enough; omega : fuel ≠ 0)
    have read := readsField_of_prints prints legible.1 (by simp at enough; omega : _ ≤ fuel)
      (ends_blank (c := '}') blank rfl rest)
    simpa [arrangedFields] using fields_last read (skipSpace_blank blank rfl rest)
  | _, _, @PrintsFields.more _ _ _ _ next prints later, legible, fuel, enough, rest => by
    obtain ⟨fuel, rfl⟩ := Nat.exists_eq_add_one_of_ne_zero (by simp at enough; omega : fuel ≠ 0)
    have read := readsField_of_prints prints legible.1 (by simp at enough; omega : _ ≤ fuel)
      (ends_cons (c := ',') rfl (next ++ rest))
    have others := fields_of_prints later legible.2 (by simp at enough; omega : _ ≤ fuel) rest
    simpa [arrangedFields] using fields_more read (skipSpace_cons rfl _) others

end

end Reader

theorem read?_of_prints {v : Value} (legible : v.Legible) {text : String} (prints : Prints v text.toList) :
    read? text = some v.arranged := by
  have read := Reader.value_of_prints prints legible (by omega : _ ≤ 2 * text.toList.length + 2) Reader.ends_nil
  rw [List.append_nil] at read
  simp [read?, read, Reader.skipSpace]

theorem read?_compact {v : Value} (legible : v.Legible) : read? v.compact = some v.arranged :=
  read?_of_prints legible (prints_compact v)

theorem read?_pretty {v : Value} (legible : v.Legible) (depth : Nat) : read? (v.pretty depth) = some v.arranged :=
  read?_of_prints legible (prints_pretty depth v)

theorem read?_compact_of_ordered {v : Value} (legible : v.Legible) (ordered : v.Ordered) :
    read? v.compact = some v := by
  rw [read?_compact legible, arranged_eq_self v ordered]

end BuildGate.Value
