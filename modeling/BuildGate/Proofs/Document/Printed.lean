import Mathlib.Data.List.Forall2
import BuildGate.Document.Printer
import BuildGate.Document.Reader

namespace BuildGate.Value

def Blank (cs : List Char) : Prop := ∀ c ∈ cs, Reader.isSpace c = true

def quoted (content : String) : List Char := '"' :: (content.toList.flatMap escapeChar ++ ['"'])

mutual

inductive Prints : Value → List Char → Prop
  | null : Prints .null ['n', 'u', 'l', 'l']
  | true : Prints (.bool true) ['t', 'r', 'u', 'e']
  | false : Prints (.bool false) ['f', 'a', 'l', 's', 'e']
  | int (number : Int) : Prints (.int number) (toString number).toList
  | float (number : Float) : Prints (.float number) (Decimal.Layout.document.render number).toList
  | text (content : String) : Prints (.text content) (quoted content)
  | emptyList : Prints (.list []) ['[', ']']
  | list {items : List Value} {cs : List Char} (parts : PrintsItems items cs) : Prints (.list items) ('[' :: cs)
  | emptyRecord : Prints (.record []) ['{', '}']
  | record {fields : List (String × Value)} {cs : List Char} (parts : PrintsFields fields cs) :
      Prints (.record fields) ('{' :: cs)
  | indented {v : Value} {blanks cs : List Char} (blank : Blank blanks) (prints : Prints v cs) :
      Prints v (blanks ++ cs)

inductive PrintsField : String × Value → List Char → Prop
  | named {key : String} {v : Value} {cs : List Char} (prints : Prints v cs) :
      PrintsField (key, v) (quoted key ++ ':' :: cs)
  | indented {field : String × Value} {blanks cs : List Char} (blank : Blank blanks) (prints : PrintsField field cs) :
      PrintsField field (blanks ++ cs)

inductive PrintsItems : List Value → List Char → Prop
  | last {item : Value} {cs blanks : List Char} (prints : Prints item cs) (blank : Blank blanks) :
      PrintsItems [item] (cs ++ (blanks ++ [']']))
  | more {item next : Value} {items : List Value} {cs rest : List Char} (prints : Prints item cs)
      (later : PrintsItems (next :: items) rest) : PrintsItems (item :: next :: items) (cs ++ ',' :: rest)

inductive PrintsFields : List (String × Value) → List Char → Prop
  | last {field : String × Value} {cs blanks : List Char} (prints : PrintsField field cs) (blank : Blank blanks) :
      PrintsFields [field] (cs ++ (blanks ++ ['}']))
  | more {field next : String × Value} {fields : List (String × Value)} {cs rest : List Char}
      (prints : PrintsField field cs) (later : PrintsFields (next :: fields) rest) :
      PrintsFields (field :: next :: fields) (cs ++ ',' :: rest)

end

@[simp] theorem blank_nil : Blank [] := nofun

theorem blank_replicate (n : Nat) : Blank (List.replicate n ' ') := by
  intro c member
  rw [List.eq_of_mem_replicate member]
  rfl

theorem Blank.cons_newline {cs : List Char} (blank : Blank cs) : Blank ('\n' :: cs) := by
  intro c member
  rcases List.mem_cons.1 member with rfl | member
  · rfl
  · exact blank c member

theorem toList_quote (content : String) : (quote content).toList = quoted content := by
  simp [quote, quoted]

theorem toList_indent (depth : Nat) : (indent depth).toList = List.replicate (2 * depth) ' ' := String.toList_ofList

section

variable {α : Type} {R : α → List Char → Prop} {P : List α → List Char → Prop} {closing : Char}

theorem sequence_intercalate (indented : ∀ {a blanks cs}, Blank blanks → R a cs → R a (blanks ++ cs))
    (last : ∀ {a cs blanks}, R a cs → Blank blanks → P [a] (cs ++ (blanks ++ [closing])))
    (more : ∀ {a next rest cs later}, R a cs → P (next :: rest) later → P (a :: next :: rest) (cs ++ ',' :: later))
    {gap ending : List Char} (blankGap : Blank gap) (blankEnding : Blank ending) {a : α} {as : List α}
    {parts : List (List Char)} (each : List.Forall₂ R (a :: as) parts) :
    P (a :: as) (gap ++ (List.intercalate (',' :: gap) parts ++ (ending ++ [closing]))) := by
  induction as generalizing a parts with
  | nil =>
    obtain ⟨part, _, first, ends, rfl⟩ := List.forall₂_cons_left_iff.1 each
    cases ends
    have only := last (indented blankGap first) blankEnding
    simpa using only
  | cons next rest ih =>
    obtain ⟨part, _, first, later, rfl⟩ := List.forall₂_cons_left_iff.1 each
    have both := more (indented blankGap first) (ih later)
    obtain ⟨second, others, -, -, rfl⟩ := List.forall₂_cons_left_iff.1 later
    rw [List.intercalate_cons_cons]
    simpa using both

end

theorem PrintsItems.intercalate {gap ending : List Char} (blankGap : Blank gap) (blankEnding : Blank ending)
    {item : Value} {items : List Value} {parts : List (List Char)}
    (each : List.Forall₂ Prints (item :: items) parts) :
    PrintsItems (item :: items) (gap ++ (List.intercalate (',' :: gap) parts ++ (ending ++ [']']))) :=
  sequence_intercalate Prints.indented PrintsItems.last PrintsItems.more blankGap blankEnding each

theorem PrintsFields.intercalate {gap ending : List Char} (blankGap : Blank gap) (blankEnding : Blank ending)
    {field : String × Value} {fields : List (String × Value)} {parts : List (List Char)}
    (each : List.Forall₂ PrintsField (field :: fields) parts) :
    PrintsFields (field :: fields) (gap ++ (List.intercalate (',' :: gap) parts ++ (ending ++ ['}']))) :=
  sequence_intercalate PrintsField.indented PrintsFields.last PrintsFields.more blankGap blankEnding each

mutual

theorem prints_compact : ∀ v : Value, Prints v v.compact.toList
  | .null => .null
  | .bool true => .true
  | .bool false => .false
  | .int number => .int number
  | .float number => .float number
  | .text content => by
    rw [compact, toList_quote]
    exact .text content
  | .list [] => .emptyList
  | .list (item :: items) => by
    have parts := PrintsItems.intercalate blank_nil blank_nil (prints_compactItems (item :: items))
    simpa [compact] using Prints.list parts
  | .record [] => .emptyRecord
  | .record (field :: fields) => by
    have parts := PrintsFields.intercalate blank_nil blank_nil (prints_compactFields (field :: fields))
    simpa [compact] using Prints.record parts

theorem prints_compactItems :
    ∀ items : List Value, List.Forall₂ Prints items ((compactItems items).map String.toList)
  | [] => .nil
  | item :: items => .cons (prints_compact item) (prints_compactItems items)

theorem prints_compactFields :
    ∀ fields : List (String × Value), List.Forall₂ PrintsField fields ((compactFields fields).map String.toList)
  | [] => .nil
  | (key, v) :: fields => by
    have field : PrintsField (key, v) (quoted key ++ ':' :: v.compact.toList) := .named (prints_compact v)
    rw [compactFields, List.map_cons]
    refine .cons ?_ (prints_compactFields fields)
    simpa [toList_quote] using field

end

theorem blank_indent (depth : Nat) : Blank (indent depth).toList := by
  rw [toList_indent]
  exact blank_replicate _

def lined (depth : Nat) (parts : List String) : List (List Char) :=
  parts.map fun part => (indent depth).toList ++ part.toList

theorem toList_block (depth : Nat) (opening closing : String) (part : String) (parts : List String) :
    (block depth opening closing (part :: parts)).toList =
      opening.toList ++ '\n' :: (List.intercalate [',', '\n'] (lined (depth + 1) (part :: parts)) ++
        ('\n' :: (indent depth).toList ++ closing.toList)) := by
  have comma : (",\n").toList = [',', '\n'] := by simp
  have line : ("\n").toList = ['\n'] := by simp
  simp only [block, List.isEmpty_cons, Bool.false_eq_true, ↓reduceIte, String.toList_append, String.toList_intercalate,
    List.map_map, lined, Function.comp_def, comma, line, List.append_assoc, List.cons_append, List.nil_append]

mutual

theorem prints_pretty : ∀ (depth : Nat) (v : Value), Prints v (v.pretty depth).toList
  | _, .null => prints_compact .null
  | _, .bool flag => prints_compact (.bool flag)
  | _, .int number => prints_compact (.int number)
  | _, .float number => prints_compact (.float number)
  | _, .text content => prints_compact (.text content)
  | depth, .list [] => by
    simpa [pretty, prettyItems, block] using Prints.emptyList
  | depth, .list (item :: items) => by
    have parts := PrintsItems.intercalate blank_nil.cons_newline (blank_indent depth).cons_newline
      (prints_prettyItems (depth + 1) (item :: items))
    rw [pretty, prettyItems, toList_block]
    exact .list parts
  | depth, .record [] => by
    simpa [pretty, prettyFields, block] using Prints.emptyRecord
  | depth, .record ((key, v) :: fields) => by
    have parts := PrintsFields.intercalate blank_nil.cons_newline (blank_indent depth).cons_newline
      (prints_prettyFields (depth + 1) ((key, v) :: fields))
    rw [pretty, prettyFields, toList_block]
    exact .record parts

theorem prints_prettyItems (depth : Nat) :
    ∀ items : List Value, List.Forall₂ Prints items (lined depth (prettyItems depth items))
  | [] => .nil
  | item :: items =>
    .cons (.indented (blank_indent depth) (prints_pretty depth item)) (prints_prettyItems depth items)

theorem prints_prettyFields (depth : Nat) :
    ∀ fields : List (String × Value), List.Forall₂ PrintsField fields (lined depth (prettyFields depth fields))
  | [] => .nil
  | (key, v) :: fields => by
    have gap : Blank [' '] := blank_replicate 1
    have field : PrintsField (key, v) (quoted key ++ ':' :: ([' '] ++ (v.pretty depth).toList)) :=
      .named (.indented gap (prints_pretty depth v))
    rw [prettyFields, lined, List.map_cons]
    refine .cons (.indented (blank_indent depth) ?_) (prints_prettyFields depth fields)
    simpa [toList_quote] using field

end

end BuildGate.Value
