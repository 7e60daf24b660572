import BuildGate.Pattern.Bracket
import BuildGate.Pattern.Footprint

namespace BuildGate.Pattern.Reader

def switch (flags : Flags) (letter : Char) (on : Bool) : Option Flags :=
  match letter with
  | 'i' => some { flags with ignoresCase := on }
  | 'm' => some { flags with multiLine := on }
  | 's' => some { flags with dotMatchesAll := on }
  | 'u' => some { flags with unicode := on }
  | 'R' => some { flags with pairedLineEnds := on }
  | 'x' => some { flags with spaced := on }
  | 'U' => some { flags with reluctant := on }
  | _ => none

/-- Flag letters up to a colon or closing parenthesis; those after a hyphen are switched off. No letter
    may come twice, and a hyphen not last. `seen` holds what was read, latest first. -/
def flagLetters (flags : Flags) (seen : List Char) : List Char → Option (Flags × List Char × List Char)
  | [] => none
  | c :: rest =>
    if c = ':' ∨ c = ')' then
      if seen.head? = some '-' then none else some (flags, seen, c :: rest)
    else if seen.contains c then none
    else if c = '-' then flagLetters flags (c :: seen) rest
    else
      match switch flags c (!seen.contains '-') with
      | some flags => flagLetters flags (c :: seen) rest
      | none => none

def isNameChar (first : Bool) (c : Char) : Bool :=
  if first then c == '_' || Text.isAlphabetic c
  else c == '_' || c == '.' || c == '[' || c == ']' || Text.isAlphanumeric c

def groupName (first : Bool) : List Char → Option (List Char × List Char)
  | [] => none
  | '>' :: rest => if first then none else some ([], rest)
  | c :: rest =>
    if isNameChar first c then
      (groupName false rest).map fun (name, rest) => (c :: name, rest)
    else none

def decimal (flags : Flags) (cs : List Char) : Option (Nat × List Char) := do
  let cs := cs.dropWhile Text.isBlank
  let (digits, rest) := takeDigits (cs.length + 1) cs
  let n ← Decimal.digits? 10 digits
  if n < 1 <<< 32 then some (n, afterBlanks (rest.length + 1) rest) else none
where
  takeDigits : Nat → List Char → List Char × List Char
    | fuel + 1, c :: rest =>
      if c.isDigit then
        let (digits, rest) := takeDigits fuel (skip flags rest)
        (c :: digits, rest)
      else ([], c :: rest)
    | _, cs => ([], cs)
  afterBlanks : Nat → List Char → List Char
    | fuel + 1, c :: rest => if Text.isBlank c then afterBlanks fuel (skip flags rest) else c :: rest
    | _, cs => cs

def afterBrace : List Char → Option (List Char)
  | [] => none
  | c :: rest => if c = '}' then some rest else none

def mostCount (flags : Flags) : List Char → Option (Option Nat × List Char)
  | [] => none
  | c :: rest =>
    if c = '}' then some (none, rest)
    else do
      let (most, rest) ← decimal flags (c :: rest)
      (afterBrace rest).map (some most, ·)

def bounds (flags : Flags) (least : Nat) : List Char → Option ((Nat × Option Nat) × List Char)
  | [] => none
  | c :: rest =>
    if c = '}' then some ((least, some least), rest)
    else if c = ',' then do
      let (most, rest) ← mostCount flags (skip flags rest)
      if most.all (least ≤ ·) then some ((least, most), rest) else none
    else none

def counts (flags : Flags) (cs : List Char) : Option ((Nat × Option Nat) × List Char) := do
  let (least, rest) ← decimal flags (skip flags cs)
  bounds flags least rest

inductive Part where
  | pattern (p : Nested Pattern)
  | flags

def Part.depth : Part → Nat
  | pattern p => p.depth
  | flags => 0

def Part.pattern? : Part → Option Pattern
  | pattern p => some p.value
  | flags => none

def sequence (parts : List Part) : Nested Pattern :=
  ⟨(parts.filterMap Part.pattern?).foldl (fun after p => .concat p after) .empty,
    listDepth parts.length ((parts.map Part.depth).foldl max 0)⟩

/-- An alternation that is still being read: the finished branches and the parts of the current one, both
    latest first. -/
structure OpenGroup where
  branches : List (Nested Pattern)
  parts : List Part
  number : Option Nat
  outside : Flags

namespace OpenGroup

def start (number : Option Nat) (outside : Flags) : OpenGroup := ⟨[], [], number, outside⟩

def choice (g : OpenGroup) : Nested Pattern :=
  let last := sequence g.parts
  ⟨g.branches.foldl (fun later branch => .alternate branch.value later) last.value,
    listDepth (g.branches.length + 1) ((g.branches.map Nested.depth).foldl max last.depth)⟩

def closed (g : OpenGroup) : Nested Pattern :=
  ⟨.group g.number g.choice.value, g.choice.depth + 1⟩

def add (g : OpenGroup) (part : Part) : OpenGroup := { g with parts := part :: g.parts }

def nextBranch (g : OpenGroup) : OpenGroup :=
  { g with branches := sequence g.parts :: g.branches, parts := [] }

def repeatLast (g : OpenGroup) (least : Nat) (most : Option Nat) (reluctant : Bool) :
    Option OpenGroup :=
  match g.parts with
  | .pattern last :: before =>
    some { g with
      parts := .pattern ⟨.repeated last.value least most reluctant, last.depth + 1⟩ :: before }
  | _ => none

end OpenGroup

structure State where
  flags : Flags
  group : OpenGroup
  outer : List OpenGroup
  names : List (List Char)
  remembered : Nat

namespace State

def initial : State := ⟨.initial, .start none .initial, [], [], 0⟩

def enter (s : State) (flags : Flags) : State :=
  { s with flags := flags, group := .start none s.flags, outer := s.group :: s.outer }

def enterRemembered (s : State) : State :=
  { s with
    group := .start (some (s.remembered + 1)) s.flags
    outer := s.group :: s.outer
    remembered := s.remembered + 1 }

def add (s : State) (p : Nested Pattern) : State := { s with group := s.group.add (.pattern p) }

def setFlags (s : State) (flags : Flags) : State :=
  { s with flags := flags, group := s.group.add .flags }

def enterNamed (s : State) (cs : List Char) : Option (State × List Char) := do
  let (name, rest) ← groupName true cs
  if s.names.contains name then none
  else some ({ s.enterRemembered with names := name :: s.names }, rest)

def enterFlagged (s : State) (cs : List Char) : Option (State × List Char) :=
  match flagLetters s.flags [] cs with
  | some (flags, _, ':' :: rest) => some (s.enter flags, rest)
  | some (_, [], _) => none
  | some (flags, _, ')' :: rest) => some (s.setFlags flags, rest)
  | _ => none

/-- The effect of an opening parenthesis and a question mark; the conditions that are written so are none
    that can be matched. -/
def openMarked (s : State) : List Char → Option (State × List Char)
  | [] => none
  | c :: rest =>
    if c = '=' ∨ c = '!' then none
    else if c = '<' then
      if rest.head? = some '=' ∨ rest.head? = some '!' then none else s.enterNamed rest
    else if c = 'P' ∧ rest.head? = some '<' then s.enterNamed rest.tail
    else s.enterFlagged (c :: rest)

def openGroup (s : State) (cs : List Char) : Option (State × List Char) :=
  match skip s.flags cs with
  | [] => some (s.enterRemembered, [])
  | c :: rest => if c = '?' then s.openMarked rest else some (s.enterRemembered, c :: rest)

def closeGroup (s : State) : Option State :=
  match s.outer with
  | [] => none
  | enclosing :: outer =>
    some { s with
      flags := s.group.outside
      group := enclosing.add (.pattern s.group.closed)
      outer := outer }

end State

def preference (flags : Flags) : List Char → Bool × List Char
  | '?' :: rest => (!flags.reluctant, rest)
  | cs => (flags.reluctant, cs)

def plainPart (flags : Flags) (c : Char) : Option Pattern :=
  match c with
  | '.' => dotPattern flags
  | '^' => some (startPattern flags)
  | '$' => some (endPattern flags)
  | c => literalPattern flags c false

def simplePart (flags : Flags) : List Char → Option (Pattern × List Char)
  | [] => none
  | c :: rest =>
    if c = '\\' then do
      let (atom, rest) ← escape flags rest
      (atomPattern flags atom).map (·, rest)
    else (plainPart flags c).map (·, rest)

def State.repeatLast (s : State) (least : Nat) (most : Option Nat) (cs : List Char) :
    Option (State × List Char) :=
  let (reluctant, rest) := preference s.flags cs
  (s.group.repeatLast least most reluctant).map fun g => ({ s with group := g }, rest)

def State.next (s : State) : List Char → Option (State × List Char)
  | '(' :: rest => s.openGroup rest
  | ')' :: rest => s.closeGroup.map (·, rest)
  | '|' :: rest => some ({ s with group := s.group.nextBranch }, rest)
  | '[' :: rest =>
    (bracketClass s.flags rest).map fun (set, rest) => (s.add ⟨.one set.value, set.depth⟩, rest)
  | '?' :: rest => s.repeatLast 0 (some 1) rest
  | '*' :: rest => s.repeatLast 0 none rest
  | '+' :: rest => s.repeatLast 1 none rest
  | '{' :: rest => do
    let ((least, most), rest) ← counts s.flags rest
    s.repeatLast least most (skip s.flags rest)
  | cs => (simplePart s.flags cs).map fun (p, rest) => (s.add ⟨p, 0⟩, rest)

def read : Nat → State → List Char → Option (Nested Pattern)
  | 0, _, _ => none
  | fuel + 1, s, cs =>
    match skip s.flags cs with
    | [] => if s.outer.isEmpty then some s.group.choice else none
    | cs =>
      match s.next cs with
      | some (s, rest) => read fuel s rest
      | none => none

def nestingLimit : Nat := 250

end BuildGate.Pattern.Reader

namespace BuildGate

inductive Pattern.Fault where
  | malformed
  | tooLarge
  deriving DecidableEq, Repr

def Pattern.read? (text : String) : Except Pattern.Fault Pattern :=
  let cs := text.toList
  match Pattern.Reader.read (cs.length + 1) .initial cs with
  | none => .error .malformed
  | some p =>
    if Pattern.Reader.nestingLimit < p.depth then .error .malformed
    else if Pattern.Footprint.fits p.value then .ok p.value
    else .error .tooLarge

end BuildGate
