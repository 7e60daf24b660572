import BuildGate.Decimal.Layout
import BuildGate.Document.Value

namespace BuildGate.Value

def escapeChar (c : Char) : List Char :=
  match c with
  | '"' => ['\\', '"']
  | '\\' => ['\\', '\\']
  | '\n' => ['\\', 'n']
  | '\r' => ['\\', 'r']
  | '\t' => ['\\', 't']
  | '\x08' => ['\\', 'b']
  | '\x0c' => ['\\', 'f']
  | c =>
    if c.toNat < 0x20 then
      ['\\', 'u', '0', '0'] ++ (if c.toNat < 16 then ['0'] else []) ++ Nat.toDigits 16 c.toNat
    else [c]

def quote (text : String) : String :=
  "\"" ++ String.ofList (text.toList.flatMap escapeChar) ++ "\""

mutual

def compact : Value → String
  | .null => "null"
  | .bool flag => if flag then "true" else "false"
  | .int number => toString number
  | .float number => Decimal.Layout.document.render number
  | .text content => quote content
  | .list items => "[" ++ String.intercalate "," (compactItems items) ++ "]"
  | .record fields => "\x7b" ++ String.intercalate "," (compactFields fields) ++ "\x7d"

def compactItems : List Value → List String
  | [] => []
  | item :: items => item.compact :: compactItems items

def compactFields : List (String × Value) → List String
  | [] => []
  | (key, value) :: fields => (quote key ++ ":" ++ value.compact) :: compactFields fields

end

def indent (depth : Nat) : String := String.ofList (List.replicate (2 * depth) ' ')

def block (depth : Nat) (opening closing : String) (parts : List String) : String :=
  if parts.isEmpty then opening ++ closing
  else
    opening ++ "\n" ++ String.intercalate ",\n" (parts.map (indent (depth + 1) ++ ·)) ++ "\n"
      ++ indent depth ++ closing

mutual

def pretty (depth : Nat) : Value → String
  | .list items => block depth "[" "]" (prettyItems (depth + 1) items)
  | .record fields => block depth "\x7b" "\x7d" (prettyFields (depth + 1) fields)
  | .null => compact .null
  | .bool flag => compact (.bool flag)
  | .int number => compact (.int number)
  | .float number => compact (.float number)
  | .text content => compact (.text content)

def prettyItems (depth : Nat) : List Value → List String
  | [] => []
  | item :: items => item.pretty depth :: prettyItems depth items

def prettyFields (depth : Nat) : List (String × Value) → List String
  | [] => []
  | (key, value) :: fields => (quote key ++ ": " ++ value.pretty depth) :: prettyFields depth fields

end

end BuildGate.Value
