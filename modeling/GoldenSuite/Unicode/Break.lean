import GoldenSuite.Unicode.Derived
import GoldenSuite.Unicode.Script

set_option autoImplicit false

namespace GoldenSuite.Unicode

open Category Property

def hangulSyllables : CharRange := ⟨0xAC00, 0xD7A3⟩

def hangulOpenSyllables : CharSet :=
  .ofCodes ((List.range 399).map fun index => hangulSyllables.low + 28 * index)

def unspacedLetters : CharSet :=
  .ofTable [
    "E01-E30 E32-E33 E40-E46 E81-E82 E84 E86-E8A E8C-EA3 EA5 EA7-EB0 EB2-EB3 EBD EC0-EC4 EC6",
    "EDC-EDF 1000-102A 103F 1050-1055 105A-105D 1061 1065-1066 106E-1070 1075-1081 108E",
    "1780-17B3 17D7 17DC 1950-196D 1970-1974 1980-19AB 19B0-19C9 1A20-1A54 1AA7 A9E0-A9E4",
    "A9E6-A9EF A9FA-A9FE AA60-AA76 AA7A AA7E-AAAF AAB1 AAB5-AAB6 AAB9-AABD AAC0 AAC2",
    "AADB-AADD 11700-1171A 11740-11746"]

def numeric : CharSet :=
  set decimalNumber ∪ .ofTable ["600-605 66B 6DD 890-891 8E2 19DA 110BD 110CD"]

def numberSigns : CharSet := .ofTable ["600-605 6DD 890-891 8E2 110BD 110CD"]

def joiners : CharSet := .ofTable ["200C-200D"]

def carriageReturn : CharSet := .single '\r'

def lineFeed : CharSet := .single '\n'

namespace GraphemeBreak

def extend : CharSet := (graphemeExtend ∪ emojiModifier) \ .single '\u200D'

def control : CharSet :=
  .unions [setOf (fun category =>
      category = .control || category = .format || category = lineSeparator
        || category = paragraphSeparator),
    set unassigned ∩ defaultIgnorable]
    \ .unions [carriageReturn, lineFeed, joiners, prependedConcatenationMark, extend]

def spacing : CharSet :=
  (set spacingMark ∪ .ofTable ["E33 EB3"])
    \ (extend ∪ .ofTable [
      "102B-102C 1038 1062-1064 1067-106D 1083 1087-108C 108F 109A-109C 1A61 1A63-1A64 AA7B AA7D",
      "11720-11721"])

def set? : String → Option CharSet
  | "cn" | "control" => some control
  | "cr" => some carriageReturn
  | "ex" | "extend" => some extend
  | "l" => some (.ofTable ["1100-115F A960-A97C"])
  | "lf" => some lineFeed
  | "lv" => some hangulOpenSyllables
  | "lvt" => some (⟨[hangulSyllables]⟩ \ hangulOpenSyllables)
  | "pp" | "prepend" =>
      some (prependedConcatenationMark
        ∪ .ofTable ["D4E 111C2-111C3 113D1 1193F 11941 11A3A 11A84-11A89 11D46 11F02"])
  | "ri" | "regionalindicator" => some regionalIndicator
  | "sm" | "spacingmark" => some spacing
  | "t" => some (.ofTable ["11A8-11FF D7CB-D7FB"])
  | "v" => some (.ofTable ["1160-11A7 D7B0-D7C6 16D63 16D67-16D6A"])
  | "zwj" => some (.single '\u200D')
  | _ => none

end GraphemeBreak

namespace SentenceBreak

def separators : CharSet := .ofTable ["85 2028-2029"]

def fullStops : CharSet := .ofTable ["2E 2024 FE52 FF0E"]

def extend : CharSet := .unions [graphemeExtend, joiners, set spacingMark]

def lower : CharSet := lowercase \ (graphemeExtend ∪ .ofTable ["10D0-10FB 10FD-10FF"])

def upper : CharSet := (uppercase ∪ titlecase) \ .ofTable ["1C90-1CBA 1CBD-1CBF"]

def close : CharSet :=
  (setOf (fun category =>
      category = openPunctuation || category = closePunctuation
        || category = initialPunctuation || category = finalPunctuation)
    ∪ quotationMark ∪ .ofTable ["275B-2760 2E00-2E01 2E06-2E08 2E0B 1F676-1F678"])
    \ .ofTable ["FF02 FF07"]

def set? : String → Option CharSet
  | "at" | "aterm" => some fullStops
  | "cl" | "close" => some close
  | "cr" => some carriageReturn
  | "ex" | "extend" => some extend
  | "fo" | "format" =>
      some (set .format \ .unions [joiners, numberSigns, .ofTable ["E0020-E007F"]])
  | "le" | "oletter" => some ((alphabetic ∪ .ofTable ["5F3"]) \ .unions [lower, upper, extend])
  | "lf" => some lineFeed
  | "lo" | "lower" => some lower
  | "nu" | "numeric" => some (numeric ∪ .ofTable ["66C"])
  | "sc" | "scontinue" =>
      some (.ofTable [
        "2C-2D 3A-3B 37E 55D 60C-60D 7F8 1802 1808 2013-2014 3001 FE10-FE11 FE13-FE14",
        "FE31-FE32 FE50-FE51 FE54-FE55 FE58 FE63 FF0C-FF0D FF1A-FF1B FF64"])
  | "se" | "sep" => some separators
  | "sp" => some (whiteSpace \ .unions [separators, carriageReturn, lineFeed])
  | "st" | "sterm" => some (sentenceTerminal \ fullStops)
  | "up" | "upper" => some upper
  | _ => none

end SentenceBreak

namespace WordBreak

def extend : CharSet :=
  .unions [graphemeExtend, set spacingMark, emojiModifier] \ .single '\u200D'

def hebrewLetters : CharSet := Script.set "Hebr" ∩ set otherLetter

def katakana : CharSet := Script.set "Kana" ∪ .ofTable ["3031-3035 309B-309C 30A0 30FC FF70"]

def letters : CharSet :=
  (alphabetic ∪ .ofTable [
      "2C2-2C5 2D2-2D7 2DE-2DF 2E5-2EB 2ED 2EF-2FF 55A-55C 55E 58A 5F3 70F A708-A716 A720-A721",
      "A789-A78A AB5B"])
    \ .unions [ideographic, katakana, Script.set "Hira", extend, hebrewLetters, unspacedLetters]

def set? : String → Option CharSet
  | "le" | "aletter" => some letters
  | "cr" => some carriageReturn
  | "dq" | "doublequote" => some (.single '"')
  | "ex" | "extendnumlet" => some (set connectorPunctuation ∪ .ofTable ["202F"])
  | "extend" => some extend
  | "fo" | "format" =>
      some (set .format \ .unions [joiners, numberSigns, .ofTable ["70F 200B E0020-E007F"]])
  | "hl" | "hebrewletter" => some hebrewLetters
  | "ka" | "katakana" => some katakana
  | "lf" => some lineFeed
  | "mb" | "midnumlet" => some (.ofTable ["2E 2018-2019 2024 FE52 FF07 FF0E"])
  | "ml" | "midletter" => some (.ofTable ["3A B7 387 55F 5F4 2027 FE13 FE55 FF1A"])
  | "mn" | "midnum" =>
      some (.ofTable ["2C 3B 37E 589 60C-60D 66C 7F8 2044 FE50 FE54 FF0C FF1B"])
  | "nl" | "newline" => some (.ofTable ["B-C 85 2028-2029"])
  | "nu" | "numeric" => some numeric
  | "ri" | "regionalindicator" => some regionalIndicator
  | "sq" | "singlequote" => some (.single '\'')
  | "wsegspace" => some (.ofTable ["20 1680 2000-2006 2008-200A 205F 3000"])
  | "zwj" => some (.single '\u200D')
  | _ => none

end WordBreak

end GoldenSuite.Unicode
