namespace BuildGate.Decimal

def baseDigit? (base : Nat) (c : Char) : Option Nat :=
  let value? :=
    if '0' ≤ c ∧ c ≤ '9' then some (c.toNat - '0'.toNat)
    else if 'a' ≤ c ∧ c ≤ 'f' then some (c.toNat - 'a'.toNat + 10)
    else if 'A' ≤ c ∧ c ≤ 'F' then some (c.toNat - 'A'.toNat + 10)
    else none
  value?.filter (· < base)

def digits? (base : Nat) : List Char → Option Nat
  | [] => none
  | cs => cs.foldlM (fun n c => (baseDigit? base c).map (n * base + ·)) 0

def splitSign : List Char → Bool × List Char
  | '-' :: rest => (true, rest)
  | '+' :: rest => (false, rest)
  | cs => (false, cs)

def signed? (base : Nat) (cs : List Char) : Option Int :=
  match splitSign cs with
  | (true, rest) => (digits? base rest).map fun n => -(n : Int)
  | (false, rest) => (digits? base rest).map fun n => (n : Int)

def minInt64 : Int := -9223372036854775808

def maxInt64 : Int := 9223372036854775807

def maxUInt64 : Int := 18446744073709551615

def fitsInt64 (n : Int) : Bool := minInt64 ≤ n && n ≤ maxInt64

def int64Of? (base : Nat) (cs : List Char) : Option Int :=
  (signed? base cs).filter fitsInt64

def int64? (text : String) : Option Int := int64Of? 10 text.toList

/-- An unsigned sixty-four-bit number; a plus sign is allowed, a minus sign is not. -/
def uint64? (text : String) : Option Int :=
  match text.toList with
  | '-' :: _ => none
  | cs => (signed? 10 cs).filter (· ≤ maxUInt64)

structure Scientific where
  whole : List Char
  fraction : List Char
  exponent : Int

def exponent? : List Char → Option Int
  | [] => some 0
  | c :: rest => if c = 'e' ∨ c = 'E' then signed? 10 rest else none

def scientific? (cs : List Char) : Option Scientific :=
  let whole := cs.takeWhile Char.isDigit
  let afterWhole := cs.dropWhile Char.isDigit
  let (fraction, tail) :=
    match afterWhole with
    | '.' :: rest => (rest.takeWhile Char.isDigit, rest.dropWhile Char.isDigit)
    | rest => ([], rest)
  if whole.isEmpty && fraction.isEmpty then none
  else (exponent? tail).map fun e => ⟨whole, fraction, e⟩

/-- The nearest binary64 number; what is far outside the range of the format goes straight to zero or
    infinity. -/
def Scientific.toFloat (s : Scientific) : Float :=
  let digits := (digits? 10 (s.whole ++ s.fraction)).getD 0
  let exponent := s.exponent - s.fraction.length
  let leading := exponent + (s.whole ++ s.fraction).length
  if digits = 0 ∨ leading < -400 then 0
  else if 20000 < leading then 1.0 / 0.0
  else if exponent < 0 then Float.ofScientific digits true exponent.natAbs
  else Float.ofScientific digits false exponent.natAbs

def lowerAscii (cs : List Char) : String := String.ofList (cs.map Char.toLower)

/-- A binary64 number: scientific form, or a name of infinity or of the undefined number in any case,
    with an optional sign. -/
def float? (text : String) : Option Float :=
  let (negative, cs) := splitSign text.toList
  let magnitude? :=
    if lowerAscii cs = "inf" ∨ lowerAscii cs = "infinity" then some (1.0 / 0.0)
    else if lowerAscii cs = "nan" then some (0.0 / 0.0)
    else (scientific? cs).map Scientific.toFloat
  magnitude?.map fun x => if negative then -x else x

end BuildGate.Decimal
