import GoldenSuite.Unicode.Age
import GoldenSuite.Unicode.Break
import GoldenSuite.Unicode.ScriptExtension

set_option autoImplicit false

namespace GoldenSuite.Unicode.Name

def dropIs : List Char → Bool × List Char
  | i :: s :: rest => if i.toLower = 'i' && s.toLower = 's' then (true, rest) else (false, i :: s :: rest)
  | written => (false, written)

/-- The letters and digits of a name that count. The short name `isc` keeps its first letters, which
tell it from `c`. -/
def loose (written : List Char) : String :=
  let (hadIs, rest) := dropIs written
  let kept := rest.filter fun c => c ≠ ' ' && c ≠ '_' && c ≠ '-' && c.toNat < 0x80
  let name := String.ofList (kept.map Char.toLower)
  if hadIs && name = "c" then "isc" else name

def category? (name : String) : Option CharSet :=
  let one (category : Category) : Option CharSet := some category.set
  let group (belongs : Category → Bool) : Option CharSet := some (Category.setOf belongs)
  match name with
  | "any" => some .all
  | "assigned" => some (Category.set .unassigned).complement
  | "ascii" => some (.ofRange 0 0x7F)
  | "l" | "letter" => group Category.isLetter
  | "lc" | "casedletter" =>
      group fun category => category = .uppercaseLetter || category = .lowercaseLetter
        || category = .titlecaseLetter
  | "lu" | "uppercaseletter" => one .uppercaseLetter
  | "ll" | "lowercaseletter" => one .lowercaseLetter
  | "lt" | "titlecaseletter" => one .titlecaseLetter
  | "lm" | "modifierletter" => one .modifierLetter
  | "lo" | "otherletter" => one .otherLetter
  | "m" | "mark" | "combiningmark" => group Category.isMark
  | "mn" | "nonspacingmark" => one .nonspacingMark
  | "mc" | "spacingmark" => one .spacingMark
  | "me" | "enclosingmark" => one .enclosingMark
  | "n" | "number" => group Category.isNumber
  | "nd" | "decimalnumber" | "digit" => one .decimalNumber
  | "nl" | "letternumber" => one .letterNumber
  | "no" | "othernumber" => one .otherNumber
  | "p" | "punctuation" | "punct" => group Category.isPunctuation
  | "pc" | "connectorpunctuation" => one .connectorPunctuation
  | "pd" | "dashpunctuation" => one .dashPunctuation
  | "ps" | "openpunctuation" => one .openPunctuation
  | "pe" | "closepunctuation" => one .closePunctuation
  | "pi" | "initialpunctuation" => one .initialPunctuation
  | "pf" | "finalpunctuation" => one .finalPunctuation
  | "po" | "otherpunctuation" => one .otherPunctuation
  | "s" | "symbol" => group Category.isSymbol
  | "sm" | "mathsymbol" => one .mathSymbol
  | "sc" | "currencysymbol" => one .currencySymbol
  | "sk" | "modifiersymbol" => one .modifierSymbol
  | "so" | "othersymbol" => one .otherSymbol
  | "z" | "separator" => group Category.isSeparator
  | "zs" | "spaceseparator" => one .spaceSeparator
  | "zl" | "lineseparator" => one .lineSeparator
  | "zp" | "paragraphseparator" => one .paragraphSeparator
  | "c" | "other" => group Category.isOther
  | "cc" | "control" | "cntrl" => one .control
  | "cf" | "format" => one .format
  | "co" | "privateuse" => one .privateUse
  | "cn" | "unassigned" => one .unassigned
  | _ => none

def script? (name : String) : Option CharSet := (Script.find? name).map Script.set

def property? : String → Option CharSet
  | "ahex" | "asciihexdigit" => some Property.asciiHexDigit
  | "alpha" | "alphabetic" => some Property.alphabetic
  | "bidic" | "bidicontrol" => some Property.bidiControl
  | "bidim" | "bidimirrored" => some Property.bidiMirrored
  | "ci" | "caseignorable" => some Property.caseIgnorable
  | "cased" => some Property.cased
  | "cwcf" | "changeswhencasefolded" => some Property.changesWhenCasefolded
  | "cwcm" | "changeswhencasemapped" => some Property.changesWhenCasemapped
  | "cwl" | "changeswhenlowercased" => some Property.changesWhenLowercased
  | "cwt" | "changeswhentitlecased" => some Property.changesWhenTitlecased
  | "cwu" | "changeswhenuppercased" => some Property.changesWhenUppercased
  | "dash" => some Property.dash
  | "di" | "defaultignorablecodepoint" => some Property.defaultIgnorable
  | "dep" | "deprecated" => some Property.deprecated
  | "dia" | "diacritic" => some Property.diacritic
  | "emoji" => some Property.emoji
  | "ecomp" | "emojicomponent" => some Property.emojiComponent
  | "emod" | "emojimodifier" => some Property.emojiModifier
  | "ebase" | "emojimodifierbase" => some Property.emojiModifierBase
  | "epres" | "emojipresentation" => some Property.emojiPresentation
  | "extpict" | "extendedpictographic" => some Property.extendedPictographic
  | "ext" | "extender" => some Property.extender
  | "grbase" | "graphemebase" => some Property.graphemeBase
  | "grext" | "graphemeextend" => some Property.graphemeExtend
  | "grlink" | "graphemelink" => some Property.graphemeLink
  | "hex" | "hexdigit" => some Property.hexDigit
  | "hyphen" => some Property.hyphen
  | "idsb" | "idsbinaryoperator" => some Property.idsBinaryOperator
  | "idst" | "idstrinaryoperator" => some Property.idsTrinaryOperator
  | "idsu" | "idsunaryoperator" => some Property.idsUnaryOperator
  | "idcompatmathcontinue" => some Property.idCompatMathContinue
  | "idcompatmathstart" => some Property.idCompatMathStart
  | "idc" | "idcontinue" => some Property.idContinue
  | "ids" | "idstart" => some Property.idStart
  | "ideo" | "ideographic" => some Property.ideographic
  | "joinc" | "joincontrol" => some Property.joinControl
  | "loe" | "logicalorderexception" => some Property.logicalOrderException
  | "lower" | "lowercase" => some Property.lowercase
  | "math" => some Property.math
  | "mcm" | "modifiercombiningmark" => some Property.modifierCombiningMark
  | "nchar" | "noncharactercodepoint" => some Property.noncharacterCodePoint
  | "oalpha" | "otheralphabetic" => some Property.otherAlphabetic
  | "odi" | "otherdefaultignorablecodepoint" => some Property.otherDefaultIgnorableCodePoint
  | "ogrext" | "othergraphemeextend" => some Property.otherGraphemeExtend
  | "oidc" | "otheridcontinue" => some Property.otherIdContinue
  | "oids" | "otheridstart" => some Property.otherIdStart
  | "olower" | "otherlowercase" => some Property.otherLowercase
  | "omath" | "othermath" => some Property.otherMath
  | "oupper" | "otheruppercase" => some Property.otherUppercase
  | "patsyn" | "patternsyntax" => some Property.patternSyntax
  | "patws" | "patternwhitespace" => some Property.patternWhiteSpace
  | "pcm" | "prependedconcatenationmark" => some Property.prependedConcatenationMark
  | "qmark" | "quotationmark" => some Property.quotationMark
  | "radical" => some Property.radical
  | "ri" | "regionalindicator" => some Property.regionalIndicator
  | "sterm" | "sentenceterminal" => some Property.sentenceTerminal
  | "sd" | "softdotted" => some Property.softDotted
  | "term" | "terminalpunctuation" => some Property.terminalPunctuation
  | "uideo" | "unifiedideograph" => some Property.unifiedIdeograph
  | "upper" | "uppercase" => some Property.uppercase
  | "vs" | "variationselector" => some Property.variationSelector
  | "wspace" | "space" | "whitespace" => some Property.whiteSpace
  | "xidc" | "xidcontinue" => some Property.xidContinue
  | "xids" | "xidstart" => some Property.xidStart
  | _ => none

def set? (written : List Char) : Option CharSet :=
  let name := loose written
  (property? name).or ((category? name).or (script? name))

def setWithValue? (written value : List Char) : Option CharSet :=
  let value := loose value
  match loose written with
  | "gc" | "generalcategory" => category? value
  | "sc" | "script" => script? value
  | "scx" | "scriptextensions" => (Script.find? value).map Script.extendedSet
  | "age" => Age.upTo? value
  | "gcb" | "graphemeclusterbreak" => GraphemeBreak.set? value
  | "sb" | "sentencebreak" => SentenceBreak.set? value
  | "wb" | "wordbreak" => WordBreak.set? value
  | _ => none

end GoldenSuite.Unicode.Name
