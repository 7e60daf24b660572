import BuildGate.Pattern.Class
import BuildGate.Text.Age
import BuildGate.Text.Boundary

namespace BuildGate.Pattern.ClassName

open Text

/-- The letters and digits of a name in lower case, without a leading `is`. -/
def normalize (name : String) : String :=
  let kept := name.toList.filter fun c =>
    c.toNat < 0x80 && c != ' ' && c != '_' && c != '-'
  let lower := kept.map Char.toLower
  let isMarked :=
    match name.toList with
    | i :: s :: _ => (i == 'i' || i == 'I') && (s == 's' || s == 'S')
    | _ => false
  let stem := if isMarked then lower.drop 2 else lower
  String.ofList (if isMarked && stem == ['c'] then lower else stem)

open Category in
def categoryNames : List (List String × List Category) :=
  [(["l", "letter"], letters),
    (["lc", "casedletter"], casedLetters),
    (["lu", "uppercaseletter"], [uppercaseLetter]),
    (["ll", "lowercaseletter"], [lowercaseLetter]),
    (["lt", "titlecaseletter"], [titlecaseLetter]),
    (["lm", "modifierletter"], [modifierLetter]),
    (["lo", "otherletter"], [otherLetter]),
    (["m", "mark", "combiningmark"], marks),
    (["mn", "nonspacingmark"], [nonspacingMark]),
    (["mc", "spacingmark"], [spacingMark]),
    (["me", "enclosingmark"], [enclosingMark]),
    (["n", "number"], numbers),
    (["nd", "decimalnumber", "digit"], [decimalNumber]),
    (["nl", "letternumber"], [letterNumber]),
    (["no", "othernumber"], [otherNumber]),
    (["p", "punctuation", "punct"], punctuation),
    (["pc", "connectorpunctuation"], [connectorPunctuation]),
    (["pd", "dashpunctuation"], [dashPunctuation]),
    (["ps", "openpunctuation"], [openPunctuation]),
    (["pe", "closepunctuation"], [closePunctuation]),
    (["pi", "initialpunctuation"], [initialPunctuation]),
    (["pf", "finalpunctuation"], [finalPunctuation]),
    (["po", "otherpunctuation"], [otherPunctuation]),
    (["s", "symbol"], symbols),
    (["sm", "mathsymbol"], [mathSymbol]),
    (["sc", "currencysymbol"], [currencySymbol]),
    (["sk", "modifiersymbol"], [modifierSymbol]),
    (["so", "othersymbol"], [otherSymbol]),
    (["z", "separator"], separators),
    (["zs", "spaceseparator"], [spaceSeparator]),
    (["zl", "lineseparator"], [lineSeparator]),
    (["zp", "paragraphseparator"], [paragraphSeparator]),
    (["c", "other"], others),
    (["cc", "control", "cntrl"], [control]),
    (["cf", "format"], [Category.format]),
    (["co", "privateuse"], [privateUse]),
    (["cn", "unassigned"], [unassigned])]

open CharProperty in
def propertyNames : List (List String × CharProperty) :=
  [(["ahex", "asciihexdigit"], asciiHexDigit),
    (["alpha", "alphabetic"], alphabetic),
    (["bidic", "bidicontrol"], bidiControl),
    (["bidim", "bidimirrored"], bidiMirrored),
    (["ci", "caseignorable"], caseIgnorable),
    (["cased"], cased),
    (["cwcf", "changeswhencasefolded"], changesWhenFolded),
    (["cwcm", "changeswhencasemapped"], changesWhenMapped),
    (["cwl", "changeswhenlowercased"], changesWhenLowered),
    (["cwt", "changeswhentitlecased"], changesWhenTitled),
    (["cwu", "changeswhenuppercased"], changesWhenRaised),
    (["dash"], dash),
    (["di", "defaultignorablecodepoint"], defaultIgnorable),
    (["dep", "deprecated"], discouraged),
    (["dia", "diacritic"], diacritic),
    (["emoji"], emoji),
    (["ecomp", "emojicomponent"], emojiComponent),
    (["emod", "emojimodifier"], emojiModifier),
    (["ebase", "emojimodifierbase"], emojiModifierBase),
    (["epres", "emojipresentation"], emojiPresentation),
    (["extpict", "extendedpictographic"], extendedPictographic),
    (["ext", "extender"], extender),
    (["grbase", "graphemebase"], graphemeBase),
    (["grext", "graphemeextend"], graphemeExtend),
    (["grlink", "graphemelink"], graphemeLink),
    (["hex", "hexdigit"], hexDigit),
    (["hyphen"], hyphen),
    (["idsb", "idsbinaryoperator"], idsBinaryOperator),
    (["idst", "idstrinaryoperator"], idsTrinaryOperator),
    (["idsu", "idsunaryoperator"], idsUnaryOperator),
    (["idcompatmathcontinue"], idCompatMathContinue),
    (["idcompatmathstart"], idCompatMathStart),
    (["idc", "idcontinue"], idContinue),
    (["ids", "idstart"], idStart),
    (["ideo", "ideographic"], ideographic),
    (["joinc", "joincontrol"], joinControl),
    (["loe", "logicalorderexception"], logicalOrderException),
    (["lower", "lowercase"], lowercase),
    (["math"], math),
    (["mcm", "modifiercombiningmark"], modifierCombiningMark),
    (["nchar", "noncharactercodepoint"], noncharacter),
    (["oalpha", "otheralphabetic"], otherAlphabetic),
    (["odi", "otherdefaultignorablecodepoint"], otherDefaultIgnorable),
    (["ogrext", "othergraphemeextend"], otherGraphemeExtend),
    (["oidc", "otheridcontinue"], otherIdContinue),
    (["oids", "otheridstart"], otherIdStart),
    (["olower", "otherlowercase"], otherLowercase),
    (["omath", "othermath"], otherMath),
    (["oupper", "otheruppercase"], otherUppercase),
    (["patsyn", "patternsyntax"], patternSyntax),
    (["patws", "patternwhitespace"], patternWhiteSpace),
    (["pcm", "prependedconcatenationmark"], prependedConcatenationMark),
    (["qmark", "quotationmark"], quotationMark),
    (["radical"], radical),
    (["ri", "regionalindicator"], regionalIndicator),
    (["sterm", "sentenceterminal"], sentenceTerminal),
    (["sd", "softdotted"], softDotted),
    (["term", "terminalpunctuation"], terminalPunctuation),
    (["uideo", "unifiedideograph"], unifiedIdeograph),
    (["upper", "uppercase"], uppercase),
    (["vs", "variationselector"], variationSelector),
    (["wspace", "whitespace", "space"], whiteSpace),
    (["xidc", "xidcontinue"], xidContinue),
    (["xids", "xidstart"], xidStart)]

def lookup {α : Type} (names : List (List String × α)) (name : String) : Option α :=
  (names.find? fun entry => entry.1.contains name).map Prod.snd

def category? (normal : String) : Option CharSet :=
  if normal = "any" then some .all
  else if normal = "assigned" then some (Category.set [.unassigned] Class.edition).complement
  else if normal = "ascii" then some Class.ascii
  else (lookup categoryNames normal).map fun members => Category.set members Class.edition

def script? (normal : String) : Option String :=
  (Script.names.find? fun names => names.any fun n => normalize n == normal).bind List.head?

def property? (normal : String) : Option CharSet :=
  (lookup propertyNames normal).map fun p => p.set Class.edition

def find? (name : String) : Option CharSet :=
  let normal := normalize name
  (property? normal).or ((category? normal).or ((script? normal).map Script.set))

def findValue? (property value : String) : Option CharSet :=
  let value := normalize value
  let is := fun names : List String => names.contains (normalize property)
  if is ["gc", "generalcategory"] then category? value
  else if is ["sc", "script"] then (script? value).map Script.set
  else if is ["scx", "scriptextensions"] then (script? value).map Script.extendedSet
  else if is ["age"] then Age.set? value
  else if is ["gcb", "graphemeclusterbreak"] then Boundary.grapheme? Class.edition value
  else if is ["wb", "wordbreak"] then Boundary.word? Class.edition value
  else if is ["sb", "sentencebreak"] then Boundary.sentence? Class.edition value
  else none

end BuildGate.Pattern.ClassName
