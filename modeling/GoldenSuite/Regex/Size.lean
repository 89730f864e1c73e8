import GoldenSuite.Automaton.LiteralTree
import GoldenSuite.Automaton.Sharing
import GoldenSuite.Regex.Reduced

set_option autoImplicit false

namespace GoldenSuite.Regex

open Automaton

def bytesOf (chars : List Char) : Bytes := chars.flatMap fun c => ByteRanges.bytesOf c.toNat

mutual

def fewestBytes? : Regex → Option Nat
  | empty | look _ => some 0
  | literal chars => some (bytesOf chars).length
  | one set => set.ranges.head?.map fun range => (ByteRanges.bytesOf range.low).length
  | group body => fewestBytes? body
  | times body least _ => (fewestBytes? body).map (· * least)
  | sequence parts => fewestBytesInOrder? parts
  | choice options => fewestBytesOfAny? options

def fewestBytesInOrder? : List Regex → Option Nat
  | [] => some 0
  | part :: parts => do return (← fewestBytes? part) + (← fewestBytesInOrder? parts)

def fewestBytesOfAny? : List Regex → Option Nat
  | [] => none
  | [option] => fewestBytes? option
  | option :: options => do return min (← fewestBytes? option) (← fewestBytesOfAny? options)

end

def literals? (direction : Direction) (options : List Regex) : Option (List Bytes) :=
  options.mapM fun option =>
    match option, direction with
    | literal chars, .forward => some (bytesOf chars)
    | literal chars, .backward => some (bytesOf chars).reverse
    | _, _ => none

def timesGrowth (step : Growth) (neverEmpty : Bool) : Nat → Option Nat → Growth
  | 0, some 1 => .all [.fork 2, step, .plain]
  | 0, none =>
      if neverEmpty then .both (.fork 2) step else .all [step, .fork 2, .fork 2, .plain]
  | least, none => .both (.repeated step least) (.fork 2)
  | least, some most =>
      if least = most then .repeated step least
      else
        .all [if least = 0 then .plain else .repeated step least, .plain,
          .repeated (.both (.fork 2) step) (most - least)]

mutual

def growth (direction : Direction) : Regex → Growth
  | empty | look _ => .plain
  | literal chars => .repeated .plain (bytesOf chars).length
  | one set => .ofSet direction set
  | group body =>
      match direction with
      | .forward => .all [.plain, growth direction body, .plain]
      | .backward => growth direction body
  | times body least most =>
      timesGrowth (growth direction body) ((fewestBytes? body).any (0 < ·)) least most
  | sequence parts =>
      match direction with
      | .forward => .all (growths direction parts)
      | .backward => .all (growths direction parts).reverse
  | choice options =>
      match literals? direction options with
      | some literals => .both .plain (.ofLiterals ((literals.map List.length).sum + 1) literals)
      | none =>
          let steps := growths direction options
          .all (steps.take 2 ++ [.fork options.length, .plain] ++ steps.drop 2)

def growths (direction : Direction) : List Regex → List Growth
  | [] => []
  | part :: parts => growth direction part :: growths direction parts

end

mutual

def isAnchored (direction : Direction) : Regex → Bool
  | look .textStart => direction = .forward
  | look .textEnd => direction = .backward
  | group body => isAnchored direction body
  | times body least _ => 0 < least && isAnchored direction body
  | sequence parts =>
      let anchors := anchors direction parts
      let read := match direction with
        | .forward => anchors
        | .backward => anchors.reverse
      let (front, rest) := read.span (·.2)
      (front ++ rest.take 1).any (·.1)
  | choice options => (anchors direction options).all (·.1)
  | _ => false

def anchors (direction : Direction) : List Regex → List (Bool × Bool)
  | [] => []
  | part :: parts => (isAnchored direction part, isAtMostEmpty part) :: anchors direction parts

end

def automaton? (direction : Direction) (regex : Regex) : Option Built :=
  let start : Growth := if isAnchored direction regex then .plain
    else .all [.fork 2, .plain, .state byteWay]
  let body := match direction with
    | .forward => growth direction (group regex)
    | .backward => growth direction regex
  Growth.all [start, body, .plain] {}

def fits (regex : Regex) : Bool :=
  (automaton? .forward regex).isSome && (automaton? .backward regex).isSome

end GoldenSuite.Regex
