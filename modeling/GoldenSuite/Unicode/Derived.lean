import GoldenSuite.Unicode.Case
import GoldenSuite.Unicode.Category
import GoldenSuite.Unicode.Property

set_option autoImplicit false

namespace GoldenSuite.Unicode.Property

open Category

def letter : CharSet := setOf isLetter

def nonspacing : CharSet := set nonspacingMark

def lowercase : CharSet := set lowercaseLetter ∪ otherLowercase

def uppercase : CharSet := set uppercaseLetter ∪ otherUppercase

def titlecase : CharSet := set titlecaseLetter

def cased : CharSet := .unions [lowercase, uppercase, titlecase]

def alphabetic : CharSet := .unions [letter, set letterNumber, lowercase, uppercase, otherAlphabetic]

def math : CharSet := set mathSymbol ∪ otherMath

-- Case

def otherCapitalized : CharSet :=
  .ofTable [
    "131 149 1F0 587 1E96-1E9A 1F50 1F52 1F54 1F56 1FB2 1FB4 1FB6-1FB7 1FC2 1FC4 1FC6-1FC7 1FD2",
    "1FD6-1FD7 1FE2 1FE4 1FE6-1FE7 1FF2 1FF4 1FF6-1FF7 FB00-FB04 FB13-FB17"]

def changesWhenLowercased : CharSet :=
  (Case.varying ∩ (uppercase ∪ titlecase)) ∪ .ofTable ["130"]

def changesWhenUppercased : CharSet :=
  (Case.varying ∩ .unions [lowercase, titlecase, nonspacing]) ∪ otherCapitalized

def changesWhenTitlecased : CharSet :=
  ((Case.varying ∩ (lowercase ∪ nonspacing)) \ .ofTable ["10D0-10FA 10FD-10FF"])
    ∪ otherCapitalized ∪ .ofTable ["1C4 1C7 1CA 1F1"]

def changesWhenCasemapped : CharSet :=
  .unions [changesWhenLowercased, changesWhenUppercased, changesWhenTitlecased]

def changesWhenCasefolded : CharSet :=
  (changesWhenLowercased \ .ofTable ["13A0-13F5"])
    ∪ .ofTable [
      "B5 DF 149 17F 345 3C2 3D0-3D1 3D5-3D6 3F0-3F1 3F5 587 13F8-13FD 1C80-1C88 1E9A-1E9B",
      "1F80-1F87 1F90-1F97 1FA0-1FA7 1FB2-1FB4 1FB7 1FC2-1FC4 1FC7 1FF2-1FF4 1FF7 AB70-ABBF",
      "FB00-FB06 FB13-FB17"]

def caseIgnorable : CharSet :=
  setOf (fun category =>
      category = nonspacingMark || category = enclosingMark || category = .format
        || category = modifierLetter || category = modifierSymbol)
    ∪ .ofTable ["27 2E 3A B7 387 55F 5F4 2018-2019 2024 2027 FE13 FE52 FE55 FF07 FF0E FF1A"]

-- Graphemes

def graphemeExtend : CharSet :=
  .unions [nonspacing, set enclosingMark, otherGraphemeExtend]

def graphemeBase : CharSet :=
  setOf (fun category =>
      !isOther category && category ≠ lineSeparator && category ≠ paragraphSeparator)
    \ graphemeExtend

def defaultIgnorable : CharSet :=
  .unions [otherDefaultIgnorableCodePoint, set .format, variationSelector]
    \ .unions [whiteSpace, prependedConcatenationMark, .ofTable ["FFF9-FFFB 13430-1343F"]]

-- Identifiers

def idStart : CharSet :=
  .unions [letter, set letterNumber, otherIdStart] \ (patternSyntax ∪ patternWhiteSpace)

def idContinue : CharSet :=
  .unions [
      idStart, nonspacing, set spacingMark, set decimalNumber, set connectorPunctuation,
      otherIdContinue]
    \ (patternSyntax ∪ patternWhiteSpace)

def notKeptInside : CharSet :=
  .ofTable ["37A 309B-309C FC5E-FC63 FDFA-FDFB FE70 FE72 FE74 FE76 FE78 FE7A FE7C FE7E"]

def xidStart : CharSet := idStart \ (notKeptInside ∪ .ofTable ["E33 EB3 FF9E-FF9F"])

def xidContinue : CharSet := idContinue \ notKeptInside

-- Words

def word : CharSet :=
  .unions [
    alphabetic, setOf isMark, set decimalNumber, set connectorPunctuation, joinControl]

end GoldenSuite.Unicode.Property
