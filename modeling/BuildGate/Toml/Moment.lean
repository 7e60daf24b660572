import BuildGate.Toml.Text

namespace BuildGate.Toml.Moment

def part (width low high : Nat) : Reader Nat := fun cs =>
  let digits := cs.take width
  if digits.length = width ∧ digits.all Char.isDigit then
    ((Decimal.digits? 10 digits).filter fun n => low ≤ n && n ≤ high).map (·, cs.drop width)
  else none

def mark (c : Char) : Reader Unit
  | d :: rest => if d = c then some ((), rest) else none
  | [] => none

def isLeap (year : Nat) : Bool := year % 4 == 0 && (year % 100 != 0 || year % 400 == 0)

def daysIn (year month : Nat) : Nat :=
  if month = 2 then (if isLeap year then 29 else 28)
  else if month = 4 ∨ month = 6 ∨ month = 9 ∨ month = 11 then 30
  else 31

def padded (width n : Nat) : String :=
  let digits := Nat.toDigits 10 n
  String.ofList (List.replicate (width - digits.length) '0' ++ digits)

def date : Reader String := fun cs => do
  let (year, cs) ← part 4 0 9999 cs
  let (_, cs) ← mark '-' cs
  let (month, cs) ← part 2 1 12 cs
  let (_, cs) ← mark '-' cs
  let (day, cs) ← part 2 1 (daysIn year month) cs
  return (padded 4 year ++ "-" ++ padded 2 month ++ "-" ++ padded 2 day, cs)

/-- The places behind the point that are kept. -/
def fractionPlaces : Nat := 9

def fraction : Reader String
  | '.' :: cs =>
    match cs.takeWhile Char.isDigit with
    | [] => none
    | digits =>
      let kept := ((digits.take fractionPlaces).reverse.dropWhile (· = '0')).reverse
      some (if kept.isEmpty then "" else "." ++ String.ofList kept, cs.dropWhile Char.isDigit)
  | cs => some ("", cs)

def time : Reader String := fun cs => do
  let (hour, cs) ← part 2 0 23 cs
  let (_, cs) ← mark ':' cs
  let (minute, cs) ← part 2 0 59 cs
  let (_, cs) ← mark ':' cs
  let (second, cs) ← part 2 0 60 cs
  let (fraction, cs) ← fraction cs
  return (padded 2 hour ++ ":" ++ padded 2 minute ++ ":" ++ padded 2 second ++ fraction, cs)

def offset : Reader String
  | c :: cs =>
    if c = 'Z' ∨ c = 'z' then some ("Z", cs)
    else if c = '+' ∨ c = '-' then do
      let (hour, cs) ← part 2 0 23 cs
      let (_, cs) ← mark ':' cs
      let (minute, cs) ← part 2 0 59 cs
      let sign := if c = '-' ∧ (hour, minute) ≠ (0, 0) then "-" else "+"
      return (sign ++ padded 2 hour ++ ":" ++ padded 2 minute, cs)
    else some ("", c :: cs)
  | [] => some ("", [])

def timeOfDate : Reader String
  | c :: cs =>
    if c = 'T' ∨ c = 't' ∨ c = ' ' then do
      let (time, cs) ← time cs
      let (offset, cs) ← offset cs
      return ("T" ++ time ++ offset, cs)
    else none
  | [] => none

def read : Reader String := fun cs =>
  match date cs with
  | some (date, rest) =>
    match timeOfDate rest with
    | some (time, rest) => some (date ++ time, rest)
    | none => some (date, rest)
  | none => time cs

end BuildGate.Toml.Moment
