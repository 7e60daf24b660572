import BuildGate.Decimal.Read
import BuildGate.Document.Value

namespace BuildGate.Value.Reader

def isSpace (c : Char) : Bool := c == ' ' || c == '\n' || c == '\r' || c == '\t'

def skipSpace (cs : List Char) : List Char := cs.dropWhile isSpace

def hexUnit : List Char → Option (Nat × List Char)
  | a :: b :: c :: d :: rest => (Decimal.digits? 16 [a, b, c, d]).map (·, rest)
  | _ => none

def unicodeEscape (cs : List Char) : Option (Char × List Char) := do
  let (unit, rest) ← hexUnit cs
  if 0xd800 ≤ unit ∧ unit < 0xdc00 then
    match rest with
    | '\\' :: 'u' :: more =>
      let (second, rest) ← hexUnit more
      if 0xdc00 ≤ second ∧ second < 0xe000 then
        some (Char.ofNat (0x10000 + (unit - 0xd800) * 0x400 + (second - 0xdc00)), rest)
      else none
    | _ => none
  else if 0xdc00 ≤ unit ∧ unit < 0xe000 then none
  else some (Char.ofNat unit, rest)

def stringBody : Nat → List Char → List Char → Option (String × List Char)
  | 0, _, _ => none
  | fuel + 1, done, cs =>
    match cs with
    | [] => none
    | '"' :: rest => some (String.ofList done.reverse, rest)
    | '\\' :: c :: rest =>
      match c with
      | '"' | '\\' | '/' => stringBody fuel (c :: done) rest
      | 'b' => stringBody fuel ('\x08' :: done) rest
      | 'f' => stringBody fuel ('\x0c' :: done) rest
      | 'n' => stringBody fuel ('\n' :: done) rest
      | 'r' => stringBody fuel ('\r' :: done) rest
      | 't' => stringBody fuel ('\t' :: done) rest
      | 'u' =>
        match unicodeEscape rest with
        | some (c, rest) => stringBody fuel (c :: done) rest
        | none => none
      | _ => none
    | c :: rest => if c.toNat < 0x20 then none else stringBody fuel (c :: done) rest

def isNumberChar (c : Char) : Bool :=
  c.isDigit || c == '-' || c == '+' || c == '.' || c == 'e' || c == 'E'

def appendDigits (n : Nat) : List Char → Nat × List Char
  | [] => (n, [])
  | c :: rest =>
    let longer := n * 10 + (c.toNat - '0'.toNat)
    if longer < 1 <<< 64 then appendDigits longer rest else (n, c :: rest)

def powerOfTen (exponent : Nat) : Float := Float.ofScientific 1 false exponent

def scaled (x : Float) (exponent : Int) : Float :=
  if x == 0 then 0
  else if 0 ≤ exponent then x * powerOfTen (min exponent.toNat 400)
  else if -308 ≤ exponent then x / powerOfTen exponent.natAbs
  else if -616 ≤ exponent then x / powerOfTen 308 / powerOfTen (exponent.natAbs - 308)
  else 0

/-- The binary64 number near a decimal one. The digits are gathered into sixty-four bits, those that do
    not fit are left out, and the number they make up is rounded before it is scaled; so it need not be
    the nearest. -/
def approximation (s : Decimal.Scientific) : Float :=
  let (n, longer) := appendDigits 0 s.whole
  let (n, dropped) := appendDigits n s.fraction
  scaled (Float.ofScientific n false 0)
    (s.exponent + longer.length - (s.fraction.length - dropped.length : Nat))

def numberOf? (spelled : List Char) : Option Value := do
  let (negative, unsigned) := Decimal.splitSign spelled
  let signed (x : Float) : Value := .float (if negative then -x else x)
  let s ← Decimal.scientific? unsigned
  if unsigned.all Char.isDigit then
    let n ← Decimal.digits? 10 unsigned
    let n : Int := if negative then -(n : Int) else n
    if negative && n == 0 then some (signed 0)
    else if Decimal.minInt64 ≤ n ∧ n ≤ Decimal.maxUInt64 then some (.int n)
    else some (signed (approximation s))
  else some (signed (approximation s))

mutual

def value : Nat → List Char → Option (Value × List Char)
  | 0, _ => none
  | fuel + 1, cs =>
    match skipSpace cs with
    | 'n' :: 'u' :: 'l' :: 'l' :: rest => some (.null, rest)
    | 't' :: 'r' :: 'u' :: 'e' :: rest => some (.bool true, rest)
    | 'f' :: 'a' :: 'l' :: 's' :: 'e' :: rest => some (.bool false, rest)
    | '"' :: rest => (stringBody (rest.length + 1) [] rest).map fun (s, rest) => (.text s, rest)
    | '[' :: rest =>
      match skipSpace rest with
      | ']' :: rest => some (.list [], rest)
      | rest => (items fuel rest).map fun (vs, rest) => (.list vs, rest)
    | '{' :: rest =>
      match skipSpace rest with
      | '}' :: rest => some (.record [], rest)
      | rest => (fields fuel rest).map fun (fs, rest) => (.ofDict (Dict.ofList fs), rest)
    | rest =>
      match numberOf? (rest.takeWhile isNumberChar) with
      | some v => some (v, rest.dropWhile isNumberChar)
      | none => none

def items : Nat → List Char → Option (List Value × List Char)
  | 0, _ => none
  | fuel + 1, cs =>
    match value fuel cs with
    | none => none
    | some (v, rest) =>
      match skipSpace rest with
      | ',' :: rest => (items fuel rest).map fun (vs, rest) => (v :: vs, rest)
      | ']' :: rest => some ([v], rest)
      | _ => none

def fields : Nat → List Char → Option (List (String × Value) × List Char)
  | 0, _ => none
  | fuel + 1, cs =>
    match skipSpace cs with
    | '"' :: rest =>
      match stringBody (rest.length + 1) [] rest with
      | none => none
      | some (key, rest) =>
        match skipSpace rest with
        | ':' :: rest =>
          match value fuel rest with
          | none => none
          | some (v, rest) =>
            match skipSpace rest with
            | ',' :: rest => (fields fuel rest).map fun (fs, rest) => ((key, v) :: fs, rest)
            | '}' :: rest => some ([(key, v)], rest)
            | _ => none
        | _ => none
    | _ => none

end

end BuildGate.Value.Reader

namespace BuildGate

def Value.read? (text : String) : Option Value :=
  let cs := text.toList
  match Value.Reader.value (2 * cs.length + 2) cs with
  | some (v, rest) => if (Value.Reader.skipSpace rest).isEmpty then some v else none
  | none => none

end BuildGate
