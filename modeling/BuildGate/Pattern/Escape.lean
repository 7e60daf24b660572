import BuildGate.Decimal.Read
import BuildGate.Pattern.ClassName
import BuildGate.Pattern.Syntax
import BuildGate.Text.Blank
import BuildGate.Text.Case

namespace BuildGate.Pattern.Reader

open Text (CharSet)

structure Flags where
  ignoresCase : Bool
  multiLine : Bool
  dotMatchesAll : Bool
  unicode : Bool
  pairedLineEnds : Bool
  spaced : Bool
  reluctant : Bool
  deriving DecidableEq

def Flags.initial : Flags := ⟨false, false, false, true, false, false, false⟩

def skipSpaced (inComment : Bool) : List Char → List Char
  | [] => []
  | c :: rest =>
    if inComment then skipSpaced (c != '\n') rest
    else if Text.isBlank c then skipSpaced false rest
    else if c = '#' then skipSpaced true rest
    else c :: rest

def skip (flags : Flags) (cs : List Char) : List Char :=
  if flags.spaced then skipSpaced false cs else cs

inductive Atom where
  | literal (c : Char) (asByte : Bool)
  | set (members : CharSet)
  | condition (l : Look)

def isMeta (c : Char) : Bool := "\\.+*?()|[]\x7b\x7d^$#&-~".toList.contains c

/-- A backslash takes the meaning away from every ASCII character that is neither a letter, a digit
    nor an angle bracket. -/
def isEscapable (c : Char) : Bool :=
  isMeta c || (c.toNat < 0x80 && !c.isAlphanum && c != '<' && c != '>')

def charOfHex (digits : List Char) : Option Char := do
  let n ← Decimal.digits? 16 digits
  if n < 0xd800 ∨ (0xdfff < n ∧ n < 0x110000) then some (Char.ofNat n) else none

def hexDigits (flags : Flags) : Nat → List Char → Option (List Char × List Char)
  | 0, cs => some ([], cs)
  | n + 1, c :: rest =>
    if (Decimal.baseDigit? 16 c).isSome then
      (hexDigits flags n (skip flags rest)).map fun (digits, rest) => (c :: digits, rest)
    else none
  | _ + 1, [] => none

def braced (flags : Flags) : Nat → List Char → Option (List Char × List Char)
  | 0, _ => none
  | fuel + 1, cs =>
    match skip flags cs with
    | [] => none
    | '}' :: rest => some ([], rest)
    | c :: rest => (braced flags fuel rest).map fun (inside, rest) => (c :: inside, rest)

def hexNumber (flags : Flags) (kind : Char) : List Char → Option ((List Char × Bool) × List Char)
  | [] => none
  | c :: rest =>
    if c = '{' then
      (braced flags (rest.length + 1) rest).map fun (digits, rest) => ((digits, false), skip flags rest)
    else
      let count := if kind = 'x' then 2 else if kind = 'u' then 4 else 8
      (hexDigits flags count (c :: rest)).map fun (digits, rest) => ((digits, kind == 'x'), rest)

def hexEscape (flags : Flags) (kind : Char) (cs : List Char) : Option (Atom × List Char) := do
  let ((digits, asByte), rest) ← hexNumber flags kind (skip flags cs)
  (charOfHex digits).map fun c => (.literal c asByte, rest)

def cut (mark : List Char) : List Char → Option (List Char × List Char)
  | [] => none
  | c :: rest =>
    if mark.isPrefixOf (c :: rest) then some ([], (c :: rest).drop mark.length)
    else (cut mark rest).map fun (before, after) => (c :: before, after)

def namedClass (name : List Char) : Option CharSet × Bool :=
  let valued := fun (property, value) =>
    ClassName.findValue? (String.ofList property) (String.ofList value)
  match cut ['!', '='] name with
  | some parts => (valued parts, true)
  | none =>
    match (cut [':'] name).or (cut ['='] name) with
    | some parts => (valued parts, false)
    | none => (ClassName.find? (String.ofList name), false)

def folded (flags : Flags) (set : CharSet) : CharSet :=
  if flags.ignoresCase then
    if flags.unicode then set.foldCase else Class.foldAscii set
  else set

/-- The complement; where classes know ASCII alone it would hold parts of characters. -/
def negated (flags : Flags) (negate : Bool) (set : CharSet) : Option CharSet :=
  if !negate then some set
  else if flags.unicode then some set.complement
  else none

def className (flags : Flags) : List Char → Option (List Char × List Char)
  | [] => none
  | c :: rest =>
    if c = '{' then braced flags (rest.length + 1) rest
    else if c = '\\' then none
    else some ([c], skip flags rest)

def namedSet (flags : Flags) (negate : Bool) (name : List Char) : Option CharSet :=
  if !flags.unicode then none
  else do
    let (set?, inverted) := namedClass name
    let set ← set?
    negated flags (negate != inverted) (folded flags set)

def classEscape (flags : Flags) (negate : Bool) (cs : List Char) : Option (Atom × List Char) := do
  let (name, rest) ← className flags (skip flags cs)
  (namedSet flags negate name).map fun set => (.set set, rest)

def letterClass (flags : Flags) (letter : Char) : Option CharSet :=
  let positive :=
    if letter.toLower = 'd' then (if flags.unicode then Class.digit else Class.asciiDigit)
    else if letter.toLower = 's' then (if flags.unicode then Class.blank else Class.asciiBlank)
    else if flags.unicode then Class.word
    else Class.asciiWord
  negated flags letter.isUpper positive

def wordsOf (flags : Flags) : Words := if flags.unicode then .unicode else .ascii

def isBoundaryChar (c : Char) : Bool := c.isAlpha || c == '-'

def boundaryName (flags : Flags) : Nat → List Char → Option (List Char × List Char)
  | 0, _ => none
  | fuel + 1, cs =>
    match cs with
    | '}' :: rest => some ([], rest)
    | c :: rest =>
      if isBoundaryChar c then
        (boundaryName flags fuel (skip flags rest)).map fun (name, rest) => (c :: name, rest)
      else none
    | [] => none

/-- What stands between braces behind a word boundary. Braces that begin with something else belong to a
    repetition. -/
def boundaryBraces (flags : Flags) : List Char → Option (Option (List Char) × List Char)
  | [] => some (none, [])
  | c :: rest =>
    if c = '{' then
      match skip flags rest with
      | [] => none
      | first :: more =>
        if isBoundaryChar first then
          (boundaryName flags (more.length + 2) (first :: more)).map fun (name, rest) => (some name, rest)
        else some (none, c :: rest)
    else some (none, c :: rest)

def boundary (words : Words) : Option (List Char) → Option Look
  | none => some (.boundary words)
  | some name =>
    match String.ofList name with
    | "start" => some (.wordStart words)
    | "end" => some (.wordEnd words)
    | "start-half" => some (.wordStartHalf words)
    | "end-half" => some (.wordEndHalf words)
    | _ => none

def boundaryEscape (flags : Flags) (cs : List Char) : Option (Atom × List Char) := do
  let (name?, rest) ← boundaryBraces flags cs
  (boundary (wordsOf flags) name?).map fun l => (.condition l, rest)

def plainEscape (flags : Flags) (c : Char) : Option Atom :=
  if "dswDSW".toList.contains c then (letterClass flags c).map .set
  else if isEscapable c then some (.literal c false)
  else
    match c with
    | 'a' => some (.literal '\x07' false)
    | 'f' => some (.literal '\x0c' false)
    | 't' => some (.literal '\t' false)
    | 'n' => some (.literal '\n' false)
    | 'r' => some (.literal '\r' false)
    | 'v' => some (.literal '\x0b' false)
    | 'A' => some (.condition .textStart)
    | 'z' => some (.condition .textEnd)
    | 'B' => some (.condition (.noBoundary (wordsOf flags)))
    | '<' => some (.condition (.wordStart (wordsOf flags)))
    | '>' => some (.condition (.wordEnd (wordsOf flags)))
    | _ => none

def escape (flags : Flags) : List Char → Option (Atom × List Char)
  | [] => none
  | c :: rest =>
    if c = 'x' ∨ c = 'u' ∨ c = 'U' then hexEscape flags c rest
    else if c = 'p' ∨ c = 'P' then classEscape flags (c == 'P') rest
    else if c = 'b' then boundaryEscape flags rest
    else (plainEscape flags c).map (·, rest)

def literalPattern (flags : Flags) (c : Char) (asByte : Bool) : Option Pattern :=
  if flags.unicode then some (.one (folded flags (.single c)))
  else if asByte && 0x80 ≤ c.toNat then none
  else some (.one (folded flags (.single c)))

def atomPattern (flags : Flags) : Atom → Option Pattern
  | .literal c asByte => literalPattern flags c asByte
  | .set members => some (.one members)
  | .condition l => some (.look l)

def dotPattern (flags : Flags) : Option Pattern :=
  if !flags.unicode then none
  else if flags.dotMatchesAll then some (.one .all)
  else if flags.pairedLineEnds then
    some (.one ((CharSet.single '\n').union (.single '\r')).complement)
  else some (.one (CharSet.single '\n').complement)

def startPattern (flags : Flags) : Pattern :=
  .look (if flags.multiLine then
    (if flags.pairedLineEnds then .lineStartPair else .lineStart) else .textStart)

def endPattern (flags : Flags) : Pattern :=
  .look (if flags.multiLine then
    (if flags.pairedLineEnds then .lineEndPair else .lineEnd) else .textEnd)

end BuildGate.Pattern.Reader
