import BuildGate.Pattern.Escape

namespace BuildGate.Pattern.Reader

open Text (CharSet)

inductive SetOperator where
  | intersection
  | difference
  | symmetric

def SetOperator.apply (flags : Flags) (op : SetOperator) (a b : CharSet) : CharSet :=
  let a := folded flags a
  let b := folded flags b
  match op with
  | intersection => a.intersection b
  | difference => a.difference b
  | symmetric => a.symmetric b

structure Nested (α : Type) where
  value : α
  depth : Nat

/-- The depth of several things side by side; one alone is not nested any deeper. -/
def listDepth (count deepest : Nat) : Nat := if 2 ≤ count then deepest + 1 else deepest

structure OpenClass where
  negate : Bool
  left : Option (Nested CharSet × SetOperator)
  members : CharSet
  count : Nat
  deepest : Nat

namespace OpenClass

def combined (flags : Flags) (c : OpenClass) : Nested CharSet :=
  let depth := listDepth c.count c.deepest
  match c.left with
  | some (left, op) => ⟨op.apply flags left.value c.members, max left.depth depth + 1⟩
  | none => ⟨c.members, depth⟩

def add (c : OpenClass) (item : Nested CharSet) : OpenClass :=
  { c with
    members := c.members.union item.value
    count := c.count + 1
    deepest := max c.deepest item.depth }

def operate (flags : Flags) (c : OpenClass) (op : SetOperator) : OpenClass :=
  ⟨c.negate, some (c.combined flags, op), .empty, 0, 0⟩

def close (flags : Flags) (c : OpenClass) : Option (Nested CharSet) :=
  let combined := c.combined flags
  (negated flags c.negate (folded flags combined.value)).map (⟨·, combined.depth + 1⟩)

end OpenClass

def leadingHyphens (flags : Flags) : Nat → OpenClass → List Char → OpenClass × List Char
  | fuel + 1, c, '-' :: rest =>
    leadingHyphens flags fuel (c.add ⟨.single '-', 0⟩) (skip flags rest)
  | _, c, cs => (c, cs)

def negation (flags : Flags) : List Char → Bool × List Char
  | [] => (false, [])
  | c :: rest => if c = '^' then (true, skip flags rest) else (false, c :: rest)

def leadingBracket (flags : Flags) (c : OpenClass) : List Char → OpenClass × List Char
  | [] => (c, [])
  | first :: rest =>
    if c.count = 0 ∧ first = ']' then (c.add ⟨.single ']', 0⟩, skip flags rest) else (c, first :: rest)

def openClass (flags : Flags) (cs : List Char) : OpenClass × List Char :=
  let (negate, cs) := negation flags (skip flags cs)
  let (c, cs) := leadingHyphens flags (cs.length + 1) ⟨negate, none, .empty, 0, 0⟩ cs
  leadingBracket flags c cs

def asciiName (flags : Flags) (negate : Bool) (cs : List Char) : Option (Option CharSet × List Char) :=
  match cs.dropWhile (· != ':') with
  | _ :: c :: rest =>
    if c = ']' then
      (Class.bracketed.lookup (String.ofList (cs.takeWhile (· != ':')))).map fun set =>
        (negated flags negate (folded flags set), rest)
    else none
  | _ => none

def asciiClass (flags : Flags) : List Char → Option (Option CharSet × List Char)
  | [] => none
  | c :: rest =>
    if c = ':' then
      if rest.head? = some '^' then asciiName flags true rest.tail else asciiName flags false rest
    else none

def classItem (flags : Flags) : List Char → Option (Atom × List Char)
  | '\\' :: rest => escape flags rest
  | c :: rest => some (.literal c false, rest)
  | [] => none

def memberChar (flags : Flags) : Atom → Option Char
  | .literal c _ => if flags.unicode || c.toNat < 0x80 then some c else none
  | _ => none

def itemSet (flags : Flags) : Atom → Option CharSet
  | .set members => some members
  | .condition _ => none
  | atom => (memberChar flags atom).map .single

/-- The character that comes next after blanks, if any are skipped. Of a comment in between only the sign
    at its start is passed over. -/
def nextVisible (flags : Flags) (cs : List Char) : Option Char :=
  if !flags.spaced then cs.head?
  else
    match cs.dropWhile Text.isBlank with
    | '#' :: rest => (rest.dropWhile Text.isBlank).head?
    | rest => rest.head?

def rangeSet (flags : Flags) (first second : Atom) : Option CharSet := do
  let low ← memberChar flags first
  let high ← memberChar flags second
  if low.toNat ≤ high.toNat then some (.range low.toNat high.toNat) else none

/-- What a member is part of; the blanks behind it have been left out. A hyphen before a closing bracket or
    before another hyphen does not make a range. -/
def rangeFrom (flags : Flags) (first : Atom) : List Char → Option (CharSet × List Char)
  | [] => none
  | c :: rest =>
    if c = '-' then
      let next := nextVisible flags rest
      if next == some ']' || next == some '-' then (itemSet flags first).map (·, c :: rest)
      else do
        let (second, rest) ← classItem flags (skip flags rest)
        (rangeSet flags first second).map (·, rest)
    else (itemSet flags first).map (·, c :: rest)

def classRange (flags : Flags) (cs : List Char) : Option (CharSet × List Char) := do
  let (first, rest) ← classItem flags cs
  rangeFrom flags first (skip flags rest)

def operatorOf? (sign : Char) : Option SetOperator :=
  match sign with
  | '&' => some .intersection
  | '-' => some .difference
  | '~' => some .symmetric
  | _ => none

def operator? : List Char → Option (SetOperator × List Char)
  | c :: d :: rest => if c = d then (operatorOf? c).map (·, rest) else none
  | _ => none

/-- The rest of a class after an opening bracket; the open classes around it stand innermost first. -/
def classBody (flags : Flags) : Nat → OpenClass → List OpenClass → List Char →
    Option (Nested CharSet × List Char)
  | 0, _, _, _ => none
  | fuel + 1, current, outer, cs =>
    match skip flags cs with
    | [] => none
    | c :: rest =>
      if c = '[' then
        match asciiClass flags rest with
        | some (some set, rest) => classBody flags fuel (current.add ⟨set, 0⟩) outer rest
        | some (none, _) => none
        | none =>
          let (inner, rest) := openClass flags rest
          classBody flags fuel inner (current :: outer) rest
      else if c = ']' then
        match current.close flags, outer with
        | none, _ => none
        | some set, [] => some (set, rest)
        | some set, enclosing :: outer => classBody flags fuel (enclosing.add set) outer rest
      else
        match operator? (c :: rest) with
        | some (op, rest) => classBody flags fuel (current.operate flags op) outer rest
        | none =>
          match classRange flags (c :: rest) with
          | some (set, rest) => classBody flags fuel (current.add ⟨set, 0⟩) outer rest
          | none => none

def bracketClass (flags : Flags) (cs : List Char) : Option (Nested CharSet × List Char) :=
  let (start, rest) := openClass flags cs
  classBody flags (cs.length + 1) start [] rest

end BuildGate.Pattern.Reader
