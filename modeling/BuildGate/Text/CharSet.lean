import BuildGate.Decimal.Read

namespace BuildGate.Text

structure CharRange where
  low : Nat
  high : Nat
  deriving DecidableEq, Repr

structure CharSet where
  ranges : List CharRange
  deriving DecidableEq, Repr

namespace CharRange

def contains (r : CharRange) (n : Nat) : Bool := r.low ≤ n && n ≤ r.high

/-- Joins a range with its neighbours in a list that is ordered by its lower ends. -/
def joinedFrom (r : CharRange) : List CharRange → List CharRange
  | [] => [r]
  | s :: rest =>
    if s.low ≤ r.high + 1 then joinedFrom ⟨r.low, max r.high s.high⟩ rest
    else r :: joinedFrom s rest

def joined : List CharRange → List CharRange
  | [] => []
  | r :: rest => joinedFrom r rest

def gaps (next : Nat) : List CharRange → List CharRange
  | [] => if next ≤ 0x10ffff then [⟨next, 0x10ffff⟩] else []
  | r :: rest =>
    if next < r.low then ⟨next, r.low - 1⟩ :: gaps (r.high + 1) rest else gaps (r.high + 1) rest

def hex (word : List Char) : Nat := (Decimal.digits? 16 word).getD 0

/-- A range such as `41-5a` or `b5` in hexadecimal. -/
def ofWord (word : String) : CharRange :=
  match word.splitOn "-" with
  | [first, last] => ⟨hex first.toList, hex last.toList⟩
  | _ => ⟨hex word.toList, hex word.toList⟩

end CharRange

def words (row : String) : List String := (row.splitOn " ").filter (· ≠ "")

namespace CharSet

def mem (s : CharSet) (c : Char) : Bool := s.ranges.any (·.contains c.toNat)

def ofRanges (rs : List CharRange) : CharSet :=
  ⟨CharRange.joined ((rs.filter fun r => r.low ≤ r.high).mergeSort fun r s => r.low ≤ s.low)⟩

def ofRows (rows : List String) : CharSet := ofRanges ((rows.flatMap words).map CharRange.ofWord)

def range (low high : Nat) : CharSet := ofRanges [⟨low, high⟩]

def single (c : Char) : CharSet := ⟨[⟨c.toNat, c.toNat⟩]⟩

def empty : CharSet := ⟨[]⟩

def all : CharSet := ⟨[⟨0, 0x10ffff⟩]⟩

def union (s t : CharSet) : CharSet := ofRanges (s.ranges ++ t.ranges)

def unions (sets : List CharSet) : CharSet := ofRanges (sets.flatMap ranges)

def complement (s : CharSet) : CharSet := ⟨CharRange.gaps 0 s.ranges⟩

def intersection (s t : CharSet) : CharSet := (s.complement.union t.complement).complement

def difference (s t : CharSet) : CharSet := (s.complement.union t).complement

def symmetric (s t : CharSet) : CharSet := (s.difference t).union (t.difference s)

def isAscii (s : CharSet) : Bool := s.ranges.all (·.high < 0x80)

def only? (s : CharSet) : Option Char :=
  match s.ranges with
  | [r] => if r.low = r.high then some (Char.ofNat r.low) else none
  | _ => none

end CharSet

end BuildGate.Text
