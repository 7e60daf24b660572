import BuildGate.Text.CharProperty

namespace BuildGate.Text.Quoted

/-- Marks that continue a character but are shown, and fillers that are no marks but are not. -/
def halfwidthVoicing : List Char := ['\uff9e', '\uff9f']

def fillers : List Char := ['\u115f', '\u1160', '\u3164', '\uffa0']

/-- Characters that leave no mark of their own: the space is the only blank that is shown. -/
def isInvisible (c : Char) : Bool :=
  if c.toNat < 0x7f then c.toNat < 0x20
  else
    (isGraphemeExtend c && !halfwidthVoicing.contains c) || fillers.contains c
      || (Category.separators ++ Category.others).contains (Category.ofChar c)

def lowerHex (n : Nat) : List Char := Nat.toDigits 16 n

def encodeChar (c : Char) : List Char :=
  match c with
  | '\x00' => ['\\', '0']
  | '\t' => ['\\', 't']
  | '\r' => ['\\', 'r']
  | '\n' => ['\\', 'n']
  | '"' => ['\\', '"']
  | '\\' => ['\\', '\\']
  | c => if isInvisible c then ['\\', 'u', '{'] ++ lowerHex c.toNat ++ ['}'] else [c]

def encode (text : String) : String :=
  "\"" ++ String.ofList (text.toList.flatMap encodeChar) ++ "\""

end BuildGate.Text.Quoted
