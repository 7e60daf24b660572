namespace BuildGate.Text

/-- The characters before a byte offset, and those from it on, if the offset falls between two. -/
def splitAtByte (offset : Nat) : List Char → Option (List Char × List Char)
  | [] => if offset = 0 then some ([], []) else none
  | c :: rest =>
    if offset = 0 then some ([], c :: rest)
    else if offset < c.utf8Size then none
    else (splitAtByte (offset - c.utf8Size) rest).map fun (before, after) => (c :: before, after)

def bytesBetween? (start finish : Nat) (cs : List Char) : Option (List Char) := do
  if start ≤ finish then
    let (before, _) ← splitAtByte finish cs
    let (_, part) ← splitAtByte start before
    some part
  else none

def bytesFrom? (start : Nat) (cs : List Char) : Option (List Char) :=
  (splitAtByte start cs).map Prod.snd

def byteCount (cs : List Char) : Nat := cs.foldl (fun count c => count + c.utf8Size) 0

def takeBytes : Nat → List Char → List Char
  | _, [] => []
  | count, c :: rest =>
    if c.utf8Size ≤ count then c :: takeBytes (count - c.utf8Size) rest else []

end BuildGate.Text
