import BuildGate.Text.CharProperty

namespace BuildGate.Pattern.Class

open Text

/-- The edition of the character tables that patterns go by. -/
def edition : Edition := .sixteenth

def word : CharSet :=
  .unions [CharProperty.alphabetic.set edition,
    Category.set (.decimalNumber :: .connectorPunctuation :: Category.marks) edition,
    CharProperty.joinControl.set edition]

def digit : CharSet := Category.set [.decimalNumber] edition

def blank : CharSet := CharProperty.whiteSpace.set edition

def rangesOf (ranges : List (Char × Char)) : CharSet :=
  .ofRanges (ranges.map fun r => ⟨r.1.toNat, r.2.toNat⟩)

def ascii : CharSet := .range 0 0x7f

def asciiDigit : CharSet := rangesOf [('0', '9')]

def asciiWord : CharSet := rangesOf [('0', '9'), ('A', 'Z'), ('_', '_'), ('a', 'z')]

def asciiBlank : CharSet := rangesOf [('\t', '\r'), (' ', ' ')]

def bracketed : List (String × CharSet) :=
  [("alnum", rangesOf [('0', '9'), ('A', 'Z'), ('a', 'z')]),
    ("alpha", rangesOf [('A', 'Z'), ('a', 'z')]),
    ("ascii", ascii),
    ("blank", rangesOf [('\t', '\t'), (' ', ' ')]),
    ("cntrl", rangesOf [('\x00', '\x1f'), ('\x7f', '\x7f')]),
    ("digit", asciiDigit),
    ("graph", rangesOf [('!', '~')]),
    ("lower", rangesOf [('a', 'z')]),
    ("print", rangesOf [(' ', '~')]),
    ("punct", rangesOf [('!', '/'), (':', '@'), ('[', Char.ofNat 0x60), ('\x7b', '~')]),
    ("space", asciiBlank),
    ("upper", rangesOf [('A', 'Z')]),
    ("word", asciiWord),
    ("xdigit", rangesOf [('0', '9'), ('A', 'F'), ('a', 'f')])]

def foldAscii (s : CharSet) : CharSet :=
  let upper := (s.intersection (rangesOf [('A', 'Z')])).ranges.map fun r => ⟨r.low + 32, r.high + 32⟩
  let lower := (s.intersection (rangesOf [('a', 'z')])).ranges.map fun r => ⟨r.low - 32, r.high - 32⟩
  .ofRanges (s.ranges ++ upper ++ lower)

end BuildGate.Pattern.Class
