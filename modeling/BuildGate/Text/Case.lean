import BuildGate.Text.CaseTable
import BuildGate.Text.CharProperty

namespace BuildGate.Text

def moveBy (runs : List CaseRun) (n : Nat) : Nat :=
  match runs.find? (·.covers n) with
  | some run => run.move n
  | none => n

def mapCase (expansions : List (Nat × List Nat)) (runs : List CaseRun) (c : Char) : List Char :=
  match expansions.lookup c.toNat with
  | some image => image.map Char.ofNat
  | none => [Char.ofNat (moveBy runs c.toNat)]

def lowerChar (c : Char) : List Char := mapCase lowerExpansions lowerRuns c

def upperChar (c : Char) : List Char := mapCase upperExpansions upperRuns c

def CaseRun.members (run : CaseRun) : List Nat :=
  (List.range ((run.last - run.first) / run.step + 1)).map (run.first + run.step * ·)

/-- Every character that is not the representative of those that differ from it in case only, with that
    representative. -/
def foldPairs : List (Nat × Nat) :=
  foldRuns.flatMap fun run => run.members.map fun n => (n, run.move n)

def CharSet.foldCase (s : CharSet) : CharSet :=
  let touched := fun n => s.ranges.any (·.contains n)
  let representatives := CharSet.ofRanges (foldPairs.filterMap fun (n, r) =>
    if touched n || touched r then some ⟨r, r⟩ else none)
  let members := foldPairs.filterMap fun (n, r) =>
    if representatives.ranges.any (·.contains r) then some ⟨n, n⟩ else none
  .unions [s, representatives, .ofRanges members]

def meetsCased (cs : List Char) : Bool :=
  match cs.dropWhile isCaseIgnorable with
  | c :: _ => isCased c
  | [] => false

/-- A capital sigma ends a word: letters stand before it and none after it. -/
def isFinalSigma (before after : List Char) : Bool :=
  meetsCased before && !meetsCased after

/-- Lower case of running text, where a capital sigma at the end of a word has its own form; `before`
    holds what came earlier, nearest first. -/
def lowerChars (before : List Char) : List Char → List Char
  | [] => []
  | c :: after =>
    (if c = 'Σ' then (if isFinalSigma before after then ['ς'] else ['σ']) else lowerChar c)
      ++ lowerChars (c :: before) after

def lower (text : String) : String := String.ofList (lowerChars [] text.toList)

def upper (text : String) : String := String.ofList (text.toList.flatMap upperChar)

end BuildGate.Text
