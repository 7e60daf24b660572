namespace BuildGate.CommandLine

def highlighted (word : String) : String := "\x1b[33m" ++ word ++ "\x1b[0m"

def literalWord (word : String) : String := "\x1b[1m" ++ word ++ "\x1b[0m"

inductive Sequence where
  | outside
  | escape
  | escapeTail
  | bracket
  | longString
  | title
  deriving DecidableEq, Repr

namespace Sequence

def isLayout (c : Char) : Bool := c == '\t' || c == '\n' || c == '\x0c' || c == '\r'

def isControl (c : Char) : Bool := c.toNat < 0x20

def step (s : Sequence) (c : Char) : Sequence × Bool :=
  if c == '\x18' || c == '\x1a' then (outside, false)
  else if c == '\x1b' then (escape, false)
  else
    match s with
    | outside => (outside, if isControl c then isLayout c else c != '\x7f')
    | escape =>
      if isControl c then (escape, isLayout c)
      else if c == '\x7f' then (escape, false)
      else if c < '0' then (escapeTail, false)
      else if c == '[' then (bracket, false)
      else if c == ']' then (title, false)
      else if "PX^_".toList.contains c then (longString, false)
      else (outside, false)
    | escapeTail =>
      if isControl c then (escapeTail, isLayout c)
      else if c == '\x7f' || c < '0' then (escapeTail, false)
      else (outside, false)
    | bracket =>
      if isControl c then (bracket, isLayout c)
      else if c == '\x7f' || c < '@' then (bracket, false)
      else (outside, false)
    | longString => (longString, false)
    | title => if c == '\x07' then (outside, false) else (title, false)

def isAscii (c : Char) : Bool := c.toNat < 0x80

/-- What is left of a character beyond ASCII whose first byte belongs to a sequence. -/
def remains (c : Char) : List Char := List.replicate (c.utf8Size - 1) '\ufffd'

/-- The text without control sequences. Once a character is shown, so are those after it up to the next
    control character, even inside of a sequence that was not finished. -/
def plainChars (shows : Bool) (s : Sequence) : List Char → List Char
  | [] => []
  | c :: rest =>
    if isAscii c then
      let (next, shown) := s.step c
      if shows && (outside.step c).2 then c :: plainChars true s rest
      else if shows && c == '\x1b' then plainChars false escape rest
      else if shown then c :: plainChars true next rest
      else plainChars false next rest
    else if shows || s == outside then c :: plainChars true outside rest
    else remains c ++ plainChars true s rest

end Sequence

def withoutSequences (text : String) : String :=
  String.ofList (Sequence.plainChars false .outside text.toList)

end BuildGate.CommandLine
