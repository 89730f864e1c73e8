set_option autoImplicit false

namespace GoldenSuite

inductive GlobFault where
  | wildcards
  | recursiveWildcards
  | range
  deriving DecidableEq, Repr

structure GlobError where
  position : Nat
  fault : GlobFault
  deriving DecidableEq, Repr

def GlobFault.message : GlobFault → String
  | .wildcards => "wildcards are either regular `*` or recursive `**`"
  | .recursiveWildcards => "recursive wildcards must form a single path component"
  | .range => "invalid range pattern"

def GlobError.message (error : GlobError) : String :=
  s!"Pattern syntax error near position {error.position}: {error.fault.message}"

namespace Glob

inductive Token where
  | char (c : Char)
  | anyChar
  | anyRun
  | anyParts
  | within (ranges : List (Char × Char))
  | without (ranges : List (Char × Char))
  deriving DecidableEq, Repr

def classRanges : List Char → List (Char × Char)
  | low :: '-' :: high :: rest => (low, high) :: classRanges rest
  | c :: rest => (c, c) :: classRanges rest
  | [] => []

def closeClass? : List Char → Option (List Char × List Char)
  | first :: more =>
      match more.dropWhile (· ≠ ']') with
      | _ :: rest => some (first :: more.takeWhile (· ≠ ']'), rest)
      | [] => none
  | [] => none

def isSeparator (c : Char) : Bool := c = '/'

/-- The tokens of a pattern from a position on. The character before tells whether a component
starts here. -/
def parseFrom : Nat → Nat → Option Char → List Char → Except GlobError (List Token)
  | 0, _, _, _ => .ok []
  | _ + 1, _, _, [] => .ok []
  | fuel + 1, position, _, '?' :: rest =>
      return .anyChar :: (← parseFrom fuel (position + 1) (some '?') rest)
  | fuel + 1, position, before, '*' :: rest =>
      match rest with
      | '*' :: '*' :: _ => .error ⟨position + 2, .wildcards⟩
      | '*' :: after =>
          if before.all isSeparator then
            match after with
            | [] => .ok [.anyParts]
            | c :: rest =>
                if isSeparator c then
                  return .anyParts :: (← parseFrom fuel (position + 3) (some c) rest)
                else .error ⟨position + 2, .recursiveWildcards⟩
          else .error ⟨position - 1, .recursiveWildcards⟩
      | _ => return .anyRun :: (← parseFrom fuel (position + 1) (some '*') rest)
  | fuel + 1, position, _, '[' :: rest =>
      let isNegated := rest.head? == some '!'
      match closeClass? (if isNegated then rest.tail else rest) with
      | none => .error ⟨position, .range⟩
      | some (letters, after) =>
          let ranges := classRanges letters
          let token := if isNegated then Token.without ranges else Token.within ranges
          let next := position + letters.length + (if isNegated then 3 else 2)
          return token :: (← parseFrom fuel next (some ']') after)
  | fuel + 1, position, _, c :: rest =>
      return .char c :: (← parseFrom fuel (position + 1) (some c) rest)

end Glob

structure Glob where
  tokens : List Glob.Token
  deriving DecidableEq, Repr

namespace Glob

def parse (pattern : String) : Except GlobError Glob := do
  let letters := pattern.toList
  return ⟨← parseFrom (letters.length + 1) 0 none letters⟩

def inRanges (ranges : List (Char × Char)) (c : Char) : Bool :=
  ranges.any fun (low, high) => low ≤ c && c ≤ high

def Token.accepts : Token → Option (Char → Bool)
  | .char c => some (· == c)
  | .anyChar => some fun _ => true
  | .within ranges => some (inRanges ranges)
  | .without ranges => some fun c => !inRanges ranges c
  | .anyRun | .anyParts => none

def endings : List Char → List (List Char)
  | [] => [[]]
  | c :: rest => (c :: rest) :: endings rest

def partEndings (before : Char) : List Char → List (List Char)
  | [] => [[]]
  | c :: rest => if isSeparator before then (c :: rest) :: partEndings c rest else partEndings c rest

def step (left : List (List Char)) (token : Token) : List (List Char) :=
  match token.accepts with
  | some accepts =>
      left.filterMap fun
        | c :: rest => if accepts c then some rest else none
        | [] => none
  | none =>
      match left with
      | [] => []
      | longest :: _ =>
          if token = .anyRun then endings longest
          else
            let parts := match longest with
              | [] => [[]]
              | c :: rest => partEndings c rest
            (endings longest).filter fun ending => left.contains ending || parts.contains ending

def isMatch (glob : Glob) (name : String) : Bool :=
  (glob.tokens.foldl step [name.toList]).any List.isEmpty

end Glob

end GoldenSuite
