import BuildGate.Document.Value
import BuildGate.Toml.Text

namespace BuildGate.Toml

/-- The digits behind a first one; an underscore counts only in front of a digit. -/
def moreDigits (isDigit : Char → Bool) : List Char → List Char × List Char
  | [] => ([], [])
  | '_' :: c :: rest =>
    if isDigit c then
      let (digits, rest) := moreDigits isDigit rest
      (c :: digits, rest)
    else ([], '_' :: c :: rest)
  | c :: rest =>
    if isDigit c then
      let (digits, rest) := moreDigits isDigit rest
      (c :: digits, rest)
    else ([], c :: rest)

def digits (isDigit : Char → Bool) : Reader (List Char)
  | [] => none
  | c :: rest =>
    if isDigit c then
      let (more, rest) := moreDigits isDigit rest
      some (c :: more, rest)
    else none

def wholePart : Reader (List Char)
  | '0' :: rest => some (['0'], rest)
  | cs => digits Char.isDigit cs

def fraction : Reader (List Char)
  | '.' :: rest => digits Char.isDigit rest
  | cs => some ([], cs)

def exponent : Reader (Option Int)
  | c :: rest =>
    if c = 'e' ∨ c = 'E' then
      let (negative, rest) := Decimal.splitSign rest
      match digits Char.isDigit rest with
      | some (ds, rest) =>
        (Decimal.digits? 10 ds).map fun n => (some (if negative then -(n : Int) else n), rest)
      | none => none
    else some (none, c :: rest)
  | [] => some (none, [])

def magnitude (negative : Bool) : Reader Value := fun cs => do
  let (whole, rest) ← wholePart cs
  let (tail, rest) ← fraction rest
  let (power, rest) ← exponent rest
  if tail.isEmpty && power.isNone then
    let n ← Decimal.digits? 10 whole
    let signed : Int := if negative then -(n : Int) else n
    if Decimal.fitsInt64 signed then some (.int signed, rest) else none
  else
    let x := (Decimal.Scientific.mk whole tail (power.getD 0)).toFloat
    if x.isInf && !negative then none else some (.float (if negative then -x else x), rest)

def inBase (base : Nat) : Reader Value := fun cs => do
  let (ds, rest) ← digits (fun c => (Decimal.baseDigit? base c).isSome) cs
  let n ← Decimal.digits? base ds
  if Decimal.fitsInt64 n then some (.int n, rest) else none

def namedNumber (negative : Bool) : Reader Value
  | 'i' :: 'n' :: 'f' :: rest =>
    some (.float (if negative then -(1.0 / 0.0) else 1.0 / 0.0), rest)
  | 'n' :: 'a' :: 'n' :: rest => some (.float (0.0 / 0.0), rest)
  | _ => none

def number : Reader Value
  | '0' :: 'x' :: rest => inBase 16 rest
  | '0' :: 'o' :: rest => inBase 8 rest
  | '0' :: 'b' :: rest => inBase 2 rest
  | cs =>
    let (negative, rest) := Decimal.splitSign cs
    namedNumber negative rest <|> magnitude negative rest

end BuildGate.Toml
