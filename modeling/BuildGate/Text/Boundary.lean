import BuildGate.Text.CharProperty
import BuildGate.Text.Script

namespace BuildGate.Text.Boundary

abbrev Value := List String × CharSet

def set? (values : List Value) (name : String) : Option CharSet :=
  match values.span fun value => !value.1.contains name with
  | (_, []) => none
  | (before, value :: _) => some (value.2.difference (.unions (before.map Prod.snd)))

def rows (row : String) : CharSet := .ofRows [row]

def prepended (e : Edition) : CharSet :=
  (CharProperty.prependedConcatenationMark.set e).union
    (rows "d4e 111c2-111c3 113d1 1193f 11941 11a3a 11a84-11a89 11d46 11f02")

def looseMarks : CharSet :=
  rows ("102b-102c 1038 1062-1064 1067-106d 1083 1087-108c 108f 109a-109c 1a61 1a63-1a64 aa7b aa7d "
    ++ "11720-11721")

/-- Hangul syllables without a final consonant: every twenty-eighth one. -/
def openSyllables : CharSet :=
  .ofRanges ((List.range 399).map fun n => ⟨0xac00 + 28 * n, 0xac00 + 28 * n⟩)

def graphemeValues (e : Edition) : List Value :=
  [(["cr"], rows "d"),
    (["lf"], rows "a"),
    (["zwj"], rows "200d"),
    (["ex", "extend"],
      (CharProperty.graphemeExtend.set e).union (CharProperty.emojiModifier.set e)),
    (["pp", "prepend"], prepended e),
    (["cn", "control"],
      (Category.set [.lineSeparator, .paragraphSeparator, .control, .format, .surrogate] e).union
        ((Category.set [.unassigned] e).intersection (CharProperty.defaultIgnorable.set e))),
    (["ri", "regionalindicator"], CharProperty.regionalIndicator.set e),
    (["sm", "spacingmark"],
      ((Category.set [.spacingMark] e).union (rows "e33 eb3")).difference looseMarks),
    (["l"], rows "1100-115f a960-a97c"),
    (["v"], rows "1160-11a7 d7b0-d7c6 16d63 16d67-16d6a"),
    (["t"], rows "11a8-11ff d7cb-d7fb"),
    (["lv"], openSyllables),
    (["lvt"], rows "ac00-d7a3")]

def numerals (e : Edition) : CharSet :=
  (Category.set [.decimalNumber] e).union
    (rows "600-605 66b-66c 6dd 890-891 8e2 19da 110bd 110cd")

def unspacedLetters : CharSet :=
  rows ("e01-e3a e40-e4e e81-e82 e84 e86-e8a e8c-ea3 ea5 ea7-ebd ec0-ec4 ec6 ec8-ece edc-edf "
    ++ "1000-103f 1050-108f 109a-109f 1780-17d3 17d7 17dc-17dd 1950-196d 1970-1974 1980-19ab "
    ++ "19b0-19c9 19da 19de-19df 1a20-1a5e 1a60-1a7c 1aa0-1aad a9e0-a9ef a9fa-a9fe aa60-aac2 "
    ++ "aadb-aadf 11700-1171a 1171d-1172b 1173a-1173b 1173f-11746")

def wordSigns : CharSet :=
  rows ("b8 2c2-2c5 2d2-2d7 2de-2df 2e5-2eb 2ed 2ef-2ff 55a-55c 55e 58a 5f3 70f a708-a716 a720-a721 "
    ++ "a789-a78a ab5b")

def wordValues (e : Edition) : List Value :=
  [(["cr"], rows "d"),
    (["lf"], rows "a"),
    (["nl", "newline"], rows "b-c 85 2028-2029"),
    (["zwj"], rows "200d"),
    (["extend"],
      .unions [CharProperty.graphemeExtend.set e, Category.set [.spacingMark] e,
        CharProperty.emojiModifier.set e]),
    (["ri", "regionalindicator"], CharProperty.regionalIndicator.set e),
    (["fo", "format"],
      (Category.set [.format] e).difference
        ((rows "200b-200d").union (CharProperty.prependedConcatenationMark.set e))),
    (["ka", "katakana"], (Script.set "Kana").union (rows "3031-3035 309b-309c 30a0 30fc ff70")),
    (["hl", "hebrewletter"], (Script.set "Hebr").intersection (Category.set [.otherLetter] e)),
    (["sq", "singlequote"], rows "27"),
    (["dq", "doublequote"], rows "22"),
    (["mb", "midnumlet"], rows "2e 2018-2019 2024 fe52 ff07 ff0e"),
    (["ml", "midletter"], rows "3a b7 387 55f 5f4 2027 fe13 fe55 ff1a"),
    (["mn", "midnum"], rows "2c 3b 37e 589 60c-60d 66c 7f8 2044 fe50 fe54 ff0c ff1b"),
    (["nu", "numeric"], numerals e),
    (["ex", "extendnumlet"], (Category.set [.connectorPunctuation] e).union (rows "202f")),
    (["wsegspace"], (Category.set [.spaceSeparator] e).difference (rows "a0 2007 202f")),
    (["le", "aletter"],
      ((CharProperty.alphabetic.set e).union wordSigns).difference
        (.unions [CharProperty.ideographic.set e, unspacedLetters, Script.set "Hira"]))]

def sentenceValues (e : Edition) : List Value :=
  [(["cr"], rows "d"),
    (["lf"], rows "a"),
    (["ex", "extend"],
      .unions [CharProperty.graphemeExtend.set e, rows "200d", Category.set [.spacingMark] e]),
    (["se", "sep"], rows "85 2028-2029"),
    (["fo", "format"],
      (Category.set [.format] e).difference ((rows "200c-200d").union (numerals e))),
    (["sp"], CharProperty.whiteSpace.set e),
    (["lo", "lower"], (CharProperty.lowercase.set e).difference (rows "10d0-10fa 10fd-10ff")),
    (["up", "upper"],
      ((Category.set [.titlecaseLetter] e).union (CharProperty.uppercase.set e)).difference
        (rows "1c90-1cbf")),
    (["le", "oletter"], (CharProperty.alphabetic.set e).union (rows "a0 5f3")),
    (["nu", "numeric"], numerals e),
    (["at", "aterm"], rows "2e 2024 fe52 ff0e"),
    (["st", "sterm"], CharProperty.sentenceTerminal.set e),
    (["cl", "close"],
      (Category.set [.openPunctuation, .closePunctuation, .initialPunctuation, .finalPunctuation]
        e).union (rows "22 27 275b-2760 2e00-2e01 2e06-2e08 2e0b 1f676-1f678")),
    (["sc", "scontinue"],
      rows ("2c-2d 3a-3b 37e 55d 60c-60d 7f8 1802 1808 2013-2014 3001 fe10-fe11 fe13-fe14 fe31-fe32 "
        ++ "fe50-fe51 fe54-fe55 fe58 fe63 ff0c-ff0d ff1a-ff1b ff64"))]

def grapheme? (e : Edition) (name : String) : Option CharSet := set? (graphemeValues e) name

def word? (e : Edition) (name : String) : Option CharSet := set? (wordValues e) name

def sentence? (e : Edition) (name : String) : Option CharSet := set? (sentenceValues e) name

end BuildGate.Text.Boundary
