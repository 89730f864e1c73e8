import GoldenSuite.Unicode.Derived

/-!
Regular expressions and what they match. Matching follows all positions of a text at once: from the
positions at which a match of an expression may start it finds those at which one may end.
-/

set_option autoImplicit false

namespace GoldenSuite

inductive Words where
  | unicode
  | ascii
  deriving DecidableEq, Repr

inductive Look where
  | textStart
  | textEnd
  | lineStart
  | lineEnd
  | anyLineStart
  | anyLineEnd
  | wordBoundary (words : Words)
  | noWordBoundary (words : Words)
  | noWordBefore (words : Words)
  | noWordAfter (words : Words)
  | wordStart (words : Words)
  | wordEnd (words : Words)
  deriving DecidableEq, Repr

inductive Regex where
  | empty
  | literal (text : List Char)
  | one (set : CharSet)
  | look (condition : Look)
  | group (body : Regex)
  | times (body : Regex) (least : Nat) (most : Option Nat)
  | sequence (parts : List Regex)
  | choice (options : List Regex)

def CharSet.asciiWord : CharSet := ⟨[⟨0x30, 0x39⟩, ⟨0x41, 0x5A⟩, ⟨0x5F, 0x5F⟩, ⟨0x61, 0x7A⟩]⟩

def Words.set : Words → CharSet
  | unicode => Unicode.Property.word
  | ascii => .asciiWord

namespace Look

def holds (look : Look) (before after : Option Char) : Bool :=
  let isIn (words : Words) (c : Option Char) : Bool := c.any words.set.contains
  match look with
  | textStart => before.isNone
  | textEnd => after.isNone
  | lineStart => before.all (· = '\n')
  | lineEnd => after.all (· = '\n')
  | anyLineStart => before.all fun c => c = '\n' || (c = '\r' && after ≠ some '\n')
  | anyLineEnd => after.all fun c => c = '\r' || (c = '\n' && before ≠ some '\r')
  | wordBoundary words => isIn words before != isIn words after
  | noWordBoundary words => isIn words before == isIn words after
  | noWordBefore words => !isIn words before
  | noWordAfter words => !isIn words after
  | wordStart words => !isIn words before && isIn words after
  | wordEnd words => isIn words before && !isIn words after

end Look

namespace Regex

abbrev Marks := List Bool

def neighbours (text : List Char) : List (Option Char × Option Char) :=
  (none :: text.map some).zip (text.map some ++ [none])

def union : Marks → Marks → Marks := List.zipWith (· || ·)

def advance (text : List Char) (isIn : Char → Bool) (marks : Marks) : Marks :=
  false :: List.zipWith (fun c mark => mark && isIn c) text marks

def repeated (step : Marks → Marks) : Nat → Marks → Marks
  | 0, marks => marks
  | count + 1, marks => if marks.any id then repeated step count (step marks) else marks

def reached (step : Marks → Marks) : Nat → Marks → Marks
  | 0, marks => marks
  | count + 1, marks =>
      let more := union marks (step marks)
      if more = marks then marks else reached step count more

mutual

/-- The positions at which a match ends that starts at one of the marks. More repetitions than there
are positions lead nowhere else. -/
def ends (text : List Char) : Regex → Marks → Marks
  | empty, marks => marks
  | literal chars, marks => chars.foldl (fun marks c => advance text (· = c) marks) marks
  | one set, marks => advance text set.contains marks
  | look condition, marks =>
      List.zipWith (fun (before, after) mark => mark && condition.holds before after)
        (neighbours text) marks
  | group body, marks => ends text body marks
  | times body least most, marks =>
      let positions := text.length + 1
      let more := match most with
        | some most => min (most - least) positions
        | none => positions
      reached (ends text body) more (repeated (ends text body) (min least positions) marks)
  | sequence parts, marks => endsInOrder text parts marks
  | choice options, marks => endsOfAny text options marks

def endsInOrder (text : List Char) : List Regex → Marks → Marks
  | [], marks => marks
  | part :: parts, marks => endsInOrder text parts (ends text part marks)

def endsOfAny (text : List Char) : List Regex → Marks → Marks
  | [], marks => marks.map fun _ => false
  | option :: options, marks => union (ends text option marks) (endsOfAny text options marks)

end

def isMatch (regex : Regex) (text : List Char) : Bool :=
  (regex.ends text (List.replicate (text.length + 1) true)).any id

end Regex

end GoldenSuite
