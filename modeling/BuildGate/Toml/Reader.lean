import BuildGate.Toml.Moment
import BuildGate.Toml.Number
import BuildGate.Toml.Table

namespace BuildGate.Toml

structure Fault where
  line : Nat
  deriving DecidableEq, Repr

def Fault.message (fault : Fault) : String := "TOML parse error at line " ++ toString fault.line

/-- The only key of the record that stands for a date or time. -/
def momentKey : String := "$__toml_private_datetime"

def momentValue (written : String) : Value := .record [(momentKey, .text written)]

def scalar : Reader Value := fun cs =>
  match cs with
  | 't' :: 'r' :: 'u' :: 'e' :: rest => some (.bool true, rest)
  | 'f' :: 'a' :: 'l' :: 's' :: 'e' :: rest => some (.bool false, rest)
  | '"' :: _ => (QuoteStyle.basic.read cs).map fun (s, rest) => (.text s, rest)
  | '\'' :: _ => (QuoteStyle.literal.read cs).map fun (s, rest) => (.text s, rest)
  | _ => ((Moment.read cs).map fun (s, rest) => (momentValue s, rest)) <|> number cs

def listItems (item : Reader Value) : Nat → Reader (List Value)
  | 0, _ => none
  | fuel + 1, cs =>
    match skipGaps false cs with
    | ']' :: rest => some ([], rest)
    | cs =>
      match item cs with
      | none => none
      | some (v, rest) =>
        match skipGaps false rest with
        | ']' :: rest => some ([v], rest)
        | ',' :: rest => (listItems item fuel rest).map fun (vs, rest) => (v :: vs, rest)
        | _ => none

structure Assignment where
  path : List String
  key : String
  value : Value

def assignment (item : Reader Value) : Reader Assignment := fun cs =>
  match key cs with
  | some ((path, name), '=' :: rest) =>
    (item (skipBlanks rest)).map fun (v, rest) => (⟨path, name, v⟩, rest)
  | _ => none

def inlineFields (item : Reader Value) : Nat → Table → Reader Table
  | 0, _, _ => none
  | fuel + 1, t, cs =>
    match assignment item cs with
    | none => none
    | some (a, rest) =>
      match t.assign a.path a.key a.value, skipBlanks rest with
      | some t, ',' :: rest => inlineFields item fuel t rest
      | some t, '}' :: rest => some (t, rest)
      | _, _ => none

def inlineTable (item : Reader Value) : Reader Value := fun cs =>
  match skipBlanks cs with
  | '}' :: rest => some (.record [], rest)
  | cs =>
    (inlineFields item (cs.length + 1) (.new .opened) cs).map fun (t, rest) => (.ofDict t.toDict, rest)

def value : Nat → Reader Value
  | 0, cs => scalar cs
  | depth + 1, cs =>
    match cs with
    | '[' :: rest => (listItems (value depth) (rest.length + 1) rest).map fun (vs, rest) => (.list vs, rest)
    | '{' :: rest => inlineTable (value depth) rest
    | _ => scalar cs

def maxDepth : Nat := 79

inductive Statement where
  | nothing
  | assign (a : Assignment)
  | openTable (path : List String) (key : String)
  | openItem (path : List String) (key : String)

def statement : Reader Statement := fun cs =>
  match skipBlanks cs with
  | [] => some (.nothing, [])
  | '#' :: rest => (finishLine? ('#' :: rest)).map (.nothing, ·)
  | '\n' :: rest => some (.nothing, rest)
  | '\r' :: '\n' :: rest => some (.nothing, rest)
  | '[' :: '[' :: rest =>
    match key rest with
    | some ((path, name), ']' :: ']' :: rest) => (finishLine? rest).map (.openItem path name, ·)
    | _ => none
  | '[' :: rest =>
    match key rest with
    | some ((path, name), ']' :: rest) => (finishLine? rest).map (.openTable path name, ·)
    | _ => none
  | cs =>
    match assignment (value maxDepth) cs with
    | some (a, rest) => (finishLine? rest).map (.assign a, ·)
    | none => none

structure Draft where
  root : Table
  current : List String

namespace Draft

def start : Draft := ⟨.new .opened, []⟩

def add (draft : Draft) : Statement → Option Draft
  | .nothing => some draft
  | .assign a =>
    (draft.root.change .passed (fun t => t.assign a.path a.key a.value) draft.current).map
      fun root => { draft with root := root }
  | .openTable path key =>
    (draft.root.openTable path key).map fun root => ⟨root, path ++ [key]⟩
  | .openItem path key =>
    (draft.root.openItem path key).map fun root => ⟨root, path ++ [key]⟩

end Draft

def statements (draft : Draft) (line : Nat) (cs : List Char) : Except Fault Draft :=
  match cs with
  | [] => .ok draft
  | c :: cs =>
    match statement (c :: cs) with
    | none => .error ⟨line⟩
    | some (s, rest) =>
      match draft.add s with
      | none => .error ⟨line⟩
      | some draft =>
        if _shorter : rest.length ≤ cs.length then
          let lines := ((c :: cs).take ((c :: cs).length - rest.length)).count '\n'
          statements draft (line + lines) rest
        else .error ⟨line⟩
termination_by cs.length
decreasing_by exact Nat.lt_succ_of_le (by assumption)

/-- A mark of the byte order in front of a document is no part of it. -/
def dropMark : List Char → List Char
  | '\ufeff' :: cs => cs
  | cs => cs

def read (text : String) : Except Fault (Dict Value) :=
  (statements .start 1 (dropMark text.toList)).map fun draft => draft.root.toDict

end BuildGate.Toml
