import BuildGate.Pattern.Class

namespace BuildGate

inductive Pattern.Words where
  | unicode
  | ascii
  deriving DecidableEq, Repr

inductive Pattern.Look where
  | textStart
  | textEnd
  | lineStart
  | lineEnd
  | lineStartPair
  | lineEndPair
  | boundary (words : Pattern.Words)
  | noBoundary (words : Pattern.Words)
  | wordStart (words : Pattern.Words)
  | wordEnd (words : Pattern.Words)
  | wordStartHalf (words : Pattern.Words)
  | wordEndHalf (words : Pattern.Words)
  deriving DecidableEq, Repr

inductive Pattern where
  | empty
  | look (condition : Pattern.Look)
  | one (set : Text.CharSet)
  | group (number : Option Nat) (inner : Pattern)
  | concat (first second : Pattern)
  | alternate (first second : Pattern)
  /-- At least so many times, and at most so many where there is a bound. A reluctant repetition prefers
      fewer; which texts match does not depend on it. -/
  | repeated (inner : Pattern) (least : Nat) (most : Option Nat) (reluctant : Bool)

namespace Pattern

def Words.set : Words → Text.CharSet
  | unicode => Class.word
  | ascii => Class.asciiWord

structure Place where
  before : Option Char
  after : Option Char

def places (before : Option Char) : List Char → List Place
  | [] => [⟨before, none⟩]
  | c :: rest => ⟨before, some c⟩ :: places (some c) rest

namespace Look

def isWord (words : Words) (c? : Option Char) : Bool := c?.any words.set.mem

def holds (p : Place) : Look → Bool
  | textStart => p.before.isNone
  | textEnd => p.after.isNone
  | lineStart => p.before.isNone || p.before == some '\n'
  | lineEnd => p.after.isNone || p.after == some '\n'
  | lineStartPair =>
    p.before.isNone || p.before == some '\n' || (p.before == some '\r' && p.after != some '\n')
  | lineEndPair =>
    p.after.isNone || p.after == some '\r' || (p.after == some '\n' && p.before != some '\r')
  | boundary words => isWord words p.before != isWord words p.after
  | noBoundary words => isWord words p.before == isWord words p.after
  | wordStart words => !isWord words p.before && isWord words p.after
  | wordEnd words => isWord words p.before && !isWord words p.after
  | wordStartHalf words => !isWord words p.before
  | wordEndHalf words => !isWord words p.after

def words? : Look → Option Words
  | boundary words | noBoundary words | wordStart words | wordEnd words | wordStartHalf words
  | wordEndHalf words => some words
  | textStart | textEnd | lineStart | lineEnd | lineStartPair | lineEndPair => none

end Look

abbrev Places := List Bool

namespace Places

def union (s t : Places) : Places := s.zipWith (· || ·) t

def without (s t : Places) : Places := s.zipWith (fun b c => b && !c) t

/-- The places that are reached by at most so many further steps: `reached` so far, of which those in
    `fresh` were not reached before the last step. -/
def closure (step : Places → Places) : Nat → Places → Places → Places
  | 0, reached, _ => reached
  | rounds + 1, reached, fresh =>
    let found := (step fresh).without reached
    if found.contains true then closure step rounds (reached.union found) found else reached

/-- The places that are reached from `s` by exactly so many steps; once a step changes nothing the
    others do not either. -/
def iterate (step : Places → Places) : Nat → Places → Places
  | 0, s => s
  | steps + 1, s =>
    let next := step s
    if next = s then s else iterate step steps next

end Places

/-- Where matches end that begin at a place of `from_`. -/
def ends (text : List Char) : Pattern → Places → Places
  | empty, s => s
  | look condition, s => s.zipWith (fun b p => b && condition.holds p) (places none text)
  | one set, s => false :: s.zipWith (fun b c => b && set.mem c) text
  | group _ inner, s => ends text inner s
  | concat first second, s => ends text second (ends text first s)
  | alternate first second, s => (ends text first s).union (ends text second s)
  | repeated inner least none _, s =>
    let start := Places.iterate (ends text inner) least s
    Places.closure (ends text inner) (text.length + 1) start start
  | repeated inner least (some most) _, s =>
    let start := Places.iterate (ends text inner) least s
    Places.closure (ends text inner) (most - least) start start

def occursIn (pattern : Pattern) (text : String) : Bool :=
  let cs := text.toList
  (pattern.ends cs (List.replicate (cs.length + 1) true)).any id

def asksForUnicodeWords : Pattern → Bool
  | empty | one _ => false
  | look condition => condition.words? == some .unicode
  | group _ inner | repeated inner _ _ _ => inner.asksForUnicodeWords
  | concat first second | alternate first second =>
    first.asksForUnicodeWords || second.asksForUnicodeWords

end Pattern

end BuildGate
