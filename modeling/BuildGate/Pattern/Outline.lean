import BuildGate.Pattern.Syntax

namespace BuildGate.Pattern

inductive Outline where
  | empty
  | literal (bytes : List UInt8)
  | chars (set : Text.CharSet)
  | look (condition : Look)
  | repeated (inner : Outline) (least : Nat) (most : Option Nat) (reluctant : Bool)
  | captured (number : Nat) (inner : Outline)
  | concat (items : List Outline)
  | alternate (branches : List Outline)

namespace Outline

mutual

def isSame : Outline → Outline → Bool
  | empty, empty => true
  | literal bytes, literal others => bytes == others
  | chars set, chars other => set == other
  | look condition, look other => condition == other
  | repeated inner least most reluctant, repeated other least' most' reluctant' =>
    isSame inner other && least == least' && most == most' && reluctant == reluctant'
  | captured number inner, captured number' other => number == number' && isSame inner other
  | concat items, concat others | alternate items, alternate others => areSame items others
  | _, _ => false

def areSame : List Outline → List Outline → Bool
  | [], [] => true
  | item :: items, other :: others => isSame item other && areSame items others
  | _, _ => false

end

instance : BEq Outline := ⟨isSame⟩

mutual

/-- The number of bytes that every match has at least; nothing where there is no match. -/
def shortest : Outline → Option Nat
  | empty | look _ => some 0
  | literal bytes => some bytes.length
  | chars set => set.ranges.head?.map fun r => (Char.ofNat r.low).utf8Size
  | repeated inner least _ _ => inner.shortest.map (least * ·)
  | captured _ inner => inner.shortest
  | concat items => shortestSum items
  | alternate branches => shortestOf branches

def shortestSum : List Outline → Option Nat
  | [] => some 0
  | item :: items => do return (← item.shortest) + (← shortestSum items)

def shortestOf : List Outline → Option Nat
  | [] => none
  | [branch] => branch.shortest
  | branch :: branches => do return min (← branch.shortest) (← shortestOf branches)

end

mutual

def isBlank : Outline → Bool
  | empty | look _ => true
  | literal bytes => bytes.isEmpty
  | chars _ => false
  | repeated inner _ most _ => (inner.isBlank && most.isSome) || most == some 0
  | captured _ inner => inner.isBlank
  | concat items => areBlank items
  | alternate branches => areBlank branches

def areBlank : List Outline → Bool
  | [] => true
  | item :: items => item.isBlank && areBlank items

end

def ofSet (s : Text.CharSet) : Outline :=
  match s.only? with
  | some c => literal (String.utf8EncodeChar c)
  | none => chars s

def cons (item : Outline) (rest : List Outline) : List Outline :=
  match item, rest with
  | empty, rest => rest
  | literal bytes, literal more :: rest => literal (bytes ++ more) :: rest
  | item, rest => item :: rest

def sequence (items : List Outline) : Outline :=
  let flat := items.flatMap fun item =>
    match item with
    | concat inner => inner
    | item => [item]
  match flat.foldr cons [] with
  | [] => empty
  | [item] => item
  | items => concat items

/-- Whether the outline is empty in itself and not only in what it matches is of no account where it is
    repeated: what has no bytes is repeated once at most. -/
def repetition (inner : Outline) (least : Nat) (most : Option Nat) (reluctant : Bool) : Outline :=
  let blank := inner.isBlank
  let least := if blank then min least 1 else least
  let most := if blank then some (min (most.getD 1) 1) else most
  if least = 0 ∧ most = some 0 then empty
  else if least = 1 ∧ most = some 1 then inner
  else repeated inner least most reluctant

def single? (bytes : List UInt8) : Option Char :=
  match (String.fromUTF8? ⟨bytes.toArray⟩).map String.toList with
  | some [c] => some c
  | _ => none

def char? : Outline → Option Text.CharSet
  | literal bytes => (single? bytes).map Text.CharSet.single
  | _ => none

def set? : Outline → Option Text.CharSet
  | chars set => some set
  | _ => none

def sharedLength : List Outline → List Outline → Nat
  | x :: xs, y :: ys => if x == y then sharedLength xs ys + 1 else 0
  | _, _ => 0

def items? : List Outline → Option (List (List Outline))
  | [] => some []
  | concat items :: rest => (items? rest).map (items :: ·)
  | _ => none

mutual

def weight : Outline → Nat
  | empty | literal _ | chars _ | look _ => 1
  | repeated inner _ _ _ | captured _ inner => inner.weight + 1
  | concat items | alternate items => weights items + 1

def weights : List Outline → Nat
  | [] => 0
  | item :: items => item.weight + weights items

end

/-- One or the other: characters or classes alone are a class. Where all branches begin alike, the
    beginning comes before the alternatives; each time it does, there are fewer parts, which `rounds`
    bounds. -/
def choice : Nat → List Outline → Outline
  | 0, branches => alternate branches
  | rounds + 1, branches =>
    let flat := branches.flatMap fun branch =>
      match branch with
      | alternate inner => inner
      | branch => [branch]
    match flat, (flat.mapM char?).or (flat.mapM set?), items? flat with
    | [branch], _, _ => branch
    | _, some sets, _ => ofSet (.unions sets)
    | _, none, some (first :: others) =>
      let shared := others.foldl (fun n items => min n (sharedLength first items)) first.length
      if shared = 0 then alternate flat
      else
        sequence (first.take shared
          ++ [choice rounds ((first :: others).map fun items => sequence (items.drop shared))])
    | _, _, _ => alternate flat

def alternatives (branches : List Outline) : Outline := choice (weights branches + 1) branches

def branches : Pattern → List Outline
  | .empty => [empty]
  | .look condition => [look condition]
  | .one set => [ofSet set]
  | .group none inner => [alternatives (branches inner)]
  | .group (some number) inner => [captured number (alternatives (branches inner))]
  | .concat first second =>
    [sequence [alternatives (branches first), alternatives (branches second)]]
  | .alternate first second => branches first ++ branches second
  | .repeated inner least most reluctant =>
    [repetition (alternatives (branches inner)) least most reluctant]

def ofPattern (p : Pattern) : Outline := alternatives (branches p)

end Outline

end BuildGate.Pattern
