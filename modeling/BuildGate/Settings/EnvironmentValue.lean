import BuildGate.Decimal.Layout
import BuildGate.Decimal.Read
import BuildGate.Document.Value
import BuildGate.Text.Blank
import BuildGate.Text.Bytes
import BuildGate.Text.Escape
import BuildGate.Text.Quoted

namespace BuildGate

inductive EnvironmentValue where
  | bool (flag : Bool)
  | unsigned (number : Int)
  | signed (number : Int)
  | float (number : Float)
  | text (content : String)
  | list (items : List EnvironmentValue)
  | map (fields : List (String × EnvironmentValue))

namespace EnvironmentValue

def describe : EnvironmentValue → String
  | bool flag => "bool " ++ (if flag then "true" else "false")
  | unsigned number => "unsigned int `" ++ toString number ++ "`"
  | signed number => "signed int `" ++ toString number ++ "`"
  | float number => "float `" ++ Decimal.Layout.bare.render number ++ "`"
  | text content => "string " ++ Text.Quoted.encode content
  | list _ => "sequence"
  | map _ => "map"

mutual

def toValue : EnvironmentValue → Value
  | bool flag => .bool flag
  | unsigned number => .int number
  | signed number => .int number
  | float number => .float number
  | text content => .text content
  | list items => .list (itemValues items)
  | map fields => .ofDict (.ofList (fieldValues fields))

def itemValues : List EnvironmentValue → List Value
  | [] => []
  | item :: items => item.toValue :: itemValues items

def fieldValues : List (String × EnvironmentValue) → List (String × Value)
  | [] => []
  | (key, v) :: fields => (key, v.toValue) :: fieldValues fields

end

def isSpace (c : Char) : Bool :=
  c == ' ' || c == '\t' || c == '\n' || c == '\r' || c == '\x0c'

def skipSpace (cs : List Char) : List Char := cs.dropWhile isSpace

def isSeparator (c : Char) : Bool :=
  c == ',' || c == '{' || c == '}' || c == '[' || c == ']'

def isKeyChar (c : Char) : Bool := c.isAlphanum || c == '_' || c == '-'

/-- The value that unquoted text spells. A point makes a number one with a fraction. -/
def ofWord (word : List Char) : EnvironmentValue :=
  let content := Text.trim (String.ofList word)
  let pointed := if content.toList.contains '.' then Decimal.float? content else none
  match pointed, Decimal.uint64? content, Decimal.int64? content with
  | some x, _, _ => float x
  | none, some n, _ => unsigned n
  | none, none, some n => signed n
  | none, none, none => text content

def enclosed : List Char → Option (List Char × List Char)
  | [] => none
  | '"' :: rest => some ([], rest)
  | '\\' :: c :: rest => (enclosed rest).map fun (inside, rest) => ('\\' :: c :: inside, rest)
  | c :: rest => (enclosed rest).map fun (inside, rest) => (c :: inside, rest)

def needsEscape (c : Char) : Bool := (c.toNat < 0x20 && c != '\t') || c == '\x7f'

def unescaped : Nat → List Char → Option (List Char)
  | 0, _ => none
  | _ + 1, [] => some []
  | fuel + 1, '\\' :: rest =>
    match Text.Escape.read rest with
    | some (c, rest) => (unescaped fuel rest).map (c :: ·)
    | none => none
  | fuel + 1, c :: rest =>
    if needsEscape c then none else (unescaped fuel rest).map (c :: ·)

/-- The text that stands for what is between quotes. Of the characters before the first escape only so
    many bytes are kept as there are characters. -/
def unquoted (inside : List Char) : Option String :=
  let plain := inside.takeWhile (· != '\\')
  let tail := inside.dropWhile (· != '\\')
  if plain.any needsEscape then none
  else if tail.isEmpty then some (String.ofList plain)
  else
    (unescaped (tail.length + 1) tail).map fun tail =>
      String.ofList (Text.takeBytes plain.length plain ++ tail)

def quoted (cs : List Char) : Option (String × List Char) := do
  let (inside, rest) ← enclosed cs
  let content ← unquoted inside
  some (content, rest)

def key : List Char → Option (String × List Char)
  | '"' :: rest => quoted rest
  | cs =>
    match cs.takeWhile isKeyChar with
    | [] => none
    | name => some (String.ofList name, cs.dropWhile isKeyChar)

mutual

def value : Nat → List Char → Option (EnvironmentValue × List Char)
  | 0, _ => none
  | fuel + 1, cs =>
    let read :=
      match skipSpace cs with
      | 't' :: 'r' :: 'u' :: 'e' :: rest => some (bool true, rest)
      | 'f' :: 'a' :: 'l' :: 's' :: 'e' :: rest => some (bool false, rest)
      | '{' :: rest => (fields fuel rest).map fun (fs, rest) => (map fs, rest)
      | '[' :: rest => (items fuel rest).map fun (vs, rest) => (list vs, rest)
      | '"' :: rest => (quoted rest).map fun (s, rest) => (text s, rest)
      | '\'' :: c :: '\'' :: rest => some (text (String.singleton c), rest)
      | '\'' :: _ => none
      | cs => some (ofWord (cs.takeWhile (!isSeparator ·)), cs.dropWhile (!isSeparator ·))
    read.map fun (v, rest) => (v, skipSpace rest)

def items : Nat → List Char → Option (List EnvironmentValue × List Char)
  | 0, _ => none
  | _ + 1, ']' :: rest => some ([], rest)
  | fuel + 1, cs =>
    match value fuel cs with
    | some (v, ',' :: rest) => (items fuel rest).map fun (vs, rest) => (v :: vs, rest)
    | some (v, ']' :: rest) => some ([v], rest)
    | _ => none

def fields : Nat → List Char → Option (List (String × EnvironmentValue) × List Char)
  | 0, _ => none
  | _ + 1, '}' :: rest => some ([], rest)
  | fuel + 1, cs =>
    match key (skipSpace cs) with
    | none => none
    | some (name, rest) =>
      match skipSpace rest with
      | '=' :: rest =>
        match value fuel rest with
        | some (v, ',' :: rest) => (fields fuel rest).map fun (fs, rest) => ((name, v) :: fs, rest)
        | some (v, '}' :: rest) => some ([(name, v)], rest)
        | _ => none
      | _ => none

end

def read (content : String) : EnvironmentValue :=
  match value (2 * content.length + 2) content.toList with
  | some (v, []) => v
  | _ => text content

end EnvironmentValue

end BuildGate
