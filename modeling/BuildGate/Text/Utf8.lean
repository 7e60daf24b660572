import BuildGate.Text.CharSet

namespace BuildGate.Text.Utf8

structure ByteRange where
  low : Nat
  high : Nat
  deriving DecidableEq, Repr

def encode (n : Nat) : List Nat := (String.utf8EncodeChar (Char.ofNat n)).map UInt8.toNat

def lengthEnds : List Nat := [0x7f, 0x7ff, 0xffff]

/-- Where a range has to be cut because an earlier byte changes before a later one has run through all of
    its values; `unit` is the number of characters that share the earlier bytes. -/
def cutAt (unit low high : Nat) : Option Nat :=
  if low / unit = high / unit then none
  else if low % unit ≠ 0 then some (low - low % unit + (unit - 1))
  else if high % unit ≠ unit - 1 then some (high - high % unit - 1)
  else none

def cut (low high : Nat) : Option Nat :=
  match lengthEnds.find? fun last => low ≤ last && last < high with
  | some last => some last
  | none =>
    if high < 0x80 then none
    else (cutAt 0x40 low high).or ((cutAt 0x1000 low high).or (cutAt 0x40000 low high))

/-- The pieces of a range. Every cut moves on to the next unit or the next length, so the depth is small. -/
def pieces : Nat → Nat → Nat → List (Nat × Nat)
  | 0, _, _ => []
  | fuel + 1, low, high =>
    if high < low then []
    else
      match cut low high with
      | some last => pieces fuel low last ++ pieces fuel (last + 1) high
      | none => [(low, high)]

def ofRange (r : CharRange) : List (List ByteRange) :=
  let parts := pieces 32 r.low (min r.high 0xd7ff) ++ pieces 32 (max r.low 0xe000) r.high
  parts.map fun (low, high) => (encode low).zipWith ByteRange.mk (encode high)

def sequences (s : CharSet) : List (List ByteRange) := s.ranges.flatMap ofRange

end BuildGate.Text.Utf8
