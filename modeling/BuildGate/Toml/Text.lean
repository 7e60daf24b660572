import BuildGate.Text.Escape

namespace BuildGate.Toml

abbrev Reader (α : Type) := List Char → Option (α × List Char)

def isBlank (c : Char) : Bool := c == ' ' || c == '\t'

def isPrintable (c : Char) : Bool := c == '\t' || (0x20 ≤ c.toNat && c.toNat ≠ 0x7f)

def skipBlanks (cs : List Char) : List Char := cs.dropWhile isBlank

def lineEnd? : List Char → Option (List Char)
  | '\n' :: rest => some rest
  | '\r' :: '\n' :: rest => some rest
  | _ => none

def skipComment : List Char → List Char
  | '#' :: rest => rest.dropWhile isPrintable
  | cs => cs

def finishLine? (cs : List Char) : Option (List Char) :=
  match skipComment (skipBlanks cs) with
  | [] => some []
  | rest => lineEnd? rest

/-- Blanks, line ends and comments, as they may stand between the items of a list; a comment that
    does not end properly stays ahead. -/
def skipGaps (inComment : Bool) : List Char → List Char
  | [] => []
  | '\n' :: rest => skipGaps false rest
  | '\r' :: '\n' :: rest => skipGaps false rest
  | c :: rest =>
    if inComment then (if isPrintable c then skipGaps true rest else c :: rest)
    else if isBlank c then skipGaps false rest
    else if c = '#' then skipGaps true rest
    else c :: rest

def skipBlankLines : List Char → List Char
  | '\n' :: rest => skipBlankLines rest
  | '\r' :: '\n' :: rest => skipBlankLines rest
  | c :: rest => if isBlank c then skipBlankLines rest else c :: rest
  | [] => []

structure QuoteStyle where
  quote : Char
  escapes : Bool

namespace QuoteStyle

def basic : QuoteStyle := ⟨'"', true⟩

def literal : QuoteStyle := ⟨'\'', false⟩

def line (style : QuoteStyle) : Nat → List Char → Reader String
  | 0, _, _ => none
  | _ + 1, _, [] => none
  | fuel + 1, done, c :: rest =>
    if c = style.quote then some (String.ofList done.reverse, rest)
    else if c = '\\' && style.escapes then
      match Text.Escape.read rest with
      | some (c, rest) => line style fuel (c :: done) rest
      | none => none
    else if isPrintable c then line style fuel (c :: done) rest
    else none

/-- How many quotes end a string over several lines: three, and up to two more that belong to the
    string. -/
def closing (style : QuoteStyle) (cs : List Char) : Nat :=
  min 5 (cs.takeWhile (· = style.quote)).length

def continuation? (cs : List Char) : Option (List Char) :=
  (lineEnd? (skipBlanks cs)).map skipBlankLines

def block (style : QuoteStyle) : Nat → List Char → Reader String
  | 0, _, _ => none
  | fuel + 1, done, cs =>
    let quotes := style.closing cs
    if 3 ≤ quotes then
      some (String.ofList (done.reverse ++ List.replicate (quotes - 3) style.quote), cs.drop quotes)
    else
      match lineEnd? cs, cs with
      | some rest, _ => block style fuel ('\n' :: done) rest
      | none, [] => none
      | none, c :: rest =>
        if c = '\\' && style.escapes then
          match Text.Escape.read rest, continuation? rest with
          | some (c, rest), _ => block style fuel (c :: done) rest
          | none, some rest => block style fuel done rest
          | none, none => none
        else if isPrintable c then block style fuel (c :: done) rest
        else none

def readLine (style : QuoteStyle) : Reader String
  | c :: rest => if c = style.quote then style.line (rest.length + 1) [] rest else none
  | [] => none

/-- A string from its opening quotes; a line end directly behind three of them is dropped. -/
def read (style : QuoteStyle) : Reader String := fun cs =>
  if cs.take 3 = List.replicate 3 style.quote then
    let rest := cs.drop 3
    let rest := (lineEnd? rest).getD rest
    style.block (rest.length + 1) [] rest
  else style.readLine cs

end QuoteStyle

def isBareKey (c : Char) : Bool := c.isAlphanum || c == '_' || c == '-'

def keyPart : Reader String := fun cs =>
  match cs with
  | '"' :: _ => QuoteStyle.basic.readLine cs
  | '\'' :: _ => QuoteStyle.literal.readLine cs
  | _ =>
    match cs.takeWhile isBareKey with
    | [] => none
    | name => some (String.ofList name, cs.dropWhile isBareKey)

def keyParts : Nat → Reader (List String)
  | 0, _ => none
  | fuel + 1, cs =>
    match keyPart (skipBlanks cs) with
    | none => none
    | some (part, rest) =>
      match skipBlanks rest with
      | '.' :: rest => (keyParts fuel rest).map fun (parts, rest) => (part :: parts, rest)
      | rest => some ([part], rest)

def maxKeyParts : Nat := 80

def key : Reader (List String × String) := fun cs =>
  match keyParts (cs.length + 1) cs with
  | some (parts, rest) =>
    if parts.length < maxKeyParts then
      parts.getLast?.map fun last => ((parts.dropLast, last), rest)
    else none
  | none => none

end BuildGate.Toml
