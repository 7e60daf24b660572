import BuildGate.Pattern.Outline
import BuildGate.Text.Utf8

namespace BuildGate.Pattern

inductive Direction where
  | forward
  | backward
  deriving DecidableEq, Repr

namespace Footprint

/-- The room for a state with at most one way out. -/
def state : Nat := 32

/-- The room for a way out that is taken at a byte. -/
def edge : Nat := 8

/-- The room for a way out that is taken without a byte. -/
def jump : Nat := 4

def fork : Nat := state + 2 * jump

abbrev Node := List (Text.Utf8.ByteRange × Nat)

def grouped : List (List Text.Utf8.ByteRange) →
    List (Text.Utf8.ByteRange × List (List Text.Utf8.ByteRange))
  | [] => []
  | [] :: rest => grouped rest
  | (first :: tail) :: rest =>
    match grouped rest with
    | (label, tails) :: groups =>
      if label = first then (label, (tail :: tails)) :: groups
      else (first, [tail]) :: (label, tails) :: groups
    | [] => [(first, [tail])]

/-- The number of a node among those known, which it joins if it is new. Numbers begin with one; zero is
    the end. -/
def enter (known : List Node) (node : Node) : Nat × List Node :=
  match known.findIdx? (· = node) with
  | some index => (known.length - index, known)
  | none => (known.length + 1, node :: known)

def node : Nat → List Node → List (List Text.Utf8.ByteRange) → Nat × List Node
  | 0, known, _ => (0, known)
  | depth + 1, known, sequences =>
    if sequences.all List.isEmpty then (0, known)
    else
      let (edges, known) := (grouped sequences).foldl
        (fun (edges, known) (label, tails) =>
          let (next, known) := node depth known tails
          (edges ++ [(label, next)], known))
        ([], known)
      enter known edges

def treeEdges : Nat → List (List Text.Utf8.ByteRange) → Nat
  | 0, _ => 0
  | depth + 1, sequences =>
    ((grouped sequences).map fun (_, tails) => 1 + treeEdges depth tails).sum

def depthLimit : Nat := 5

def classSize (direction : Direction) (set : Text.CharSet) : Nat :=
  if set.isAscii then 2 * state + edge * set.ranges.length
  else
    let sequences := Text.Utf8.sequences set
    match direction with
    | .forward =>
      let nodes := (node depthLimit [] sequences).2
      nodes.foldl (fun size n => size + (state + edge * n.length)) state
    | .backward =>
      2 * state + state * treeEdges depthLimit sequences + jump * sequences.length

/-- The stretches between the empty words, which are where words end; of several at the very beginning
    one counts. -/
def stretches (words : List (List UInt8)) : List (List (List UInt8)) :=
  let started := words.dropWhile List.isEmpty
  let stretches := (started.splitBy fun a b => a.isEmpty == b.isEmpty).flatMap fun run =>
    if run.head?.any List.isEmpty then List.replicate (run.length - 1) [] else [run]
  let ended := if started.getLast?.any List.isEmpty then [[]] else []
  (if started.length < words.length then [[]] else []) ++ stretches ++ ended

def byFirst (words : List (List UInt8)) : List (UInt8 × List (List UInt8)) :=
  let firsts := (words.filterMap List.head?).eraseDups
  firsts.map fun first => (first, words.filterMap fun word =>
    match word with
    | b :: rest => if b = first then some rest else none
    | [] => none)

/-- The room for a tree of words. A state stands for each place where words part or one of them ends. -/
def wordTree : Nat → List (List UInt8) → Nat
  | 0, _ => 0
  | depth + 1, words =>
    let parts := stretches words
    let full := parts.filter (!·.isEmpty)
    let ways := jump * (full.length + (parts.length - 1))
    state + ways + (full.map fun part =>
      let groups := byFirst part
      let own := if groups.length = 1 then state else state + edge * groups.length
      own + (groups.map fun (_, rest) =>
        if rest.all List.isEmpty then 0 else wordTree depth rest).sum).sum

def wordsSize (direction : Direction) (words : List (List UInt8)) : Nat :=
  let oriented :=
    match direction with
    | .forward => words
    | .backward => words.map List.reverse
  state + wordTree ((words.map List.length).foldl max 0 + 1) oriented

def words? : List Outline → Option (List (List UInt8))
  | [] => some []
  | .literal bytes :: rest => (words? rest).map (bytes :: ·)
  | _ => none

def copies (count size : Nat) : Nat := if count = 0 then state else count * size

mutual

def size (direction : Direction) : Outline → Nat
  | .empty | .look _ => state
  | .literal bytes => state * bytes.length
  | .chars set => classSize direction set
  | .captured _ inner =>
    match direction with
    | .forward => 2 * state + size direction inner
    | .backward => size direction inner
  | .concat items => sizes direction items
  | .alternate branches =>
    match words? branches with
    | some words => wordsSize direction words
    | none => 2 * state + jump * branches.length + sizes direction branches
  | .repeated inner 0 (some 1) _ => fork + state + size direction inner
  | .repeated inner 0 none _ =>
    if inner.shortest.any (0 < ·) then fork + size direction inner
    else 2 * fork + state + size direction inner
  | .repeated inner least none _ => fork + copies least (size direction inner)
  | .repeated inner least (some most) _ =>
    let inner := size direction inner
    if least = most then copies least inner
    else copies least inner + state + (most - least) * (fork + inner)

def sizes (direction : Direction) : List Outline → Nat
  | [] => 0
  | item :: items => size direction item + sizes direction items

end

/-- The most room that a program may take, in bytes. -/
def limit : Nat := 10485760

/-- The room for a whole program: what leads up to a match and what marks it come on top. -/
def program (direction : Direction) (outline : Outline) : Nat :=
  2 * state + size direction (.captured 0 outline)

def fits (p : Pattern) : Bool :=
  let outline := Outline.ofPattern p
  program .forward outline ≤ limit && program .backward outline ≤ limit

end Footprint

end BuildGate.Pattern
