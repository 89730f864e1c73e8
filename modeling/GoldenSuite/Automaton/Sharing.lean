import GoldenSuite.Automaton.Built
import GoldenSuite.Automaton.ByteRanges
import Std.Data.HashMap

set_option autoImplicit false

namespace GoldenSuite.Automaton

structure Shared (α : Type) where
  places : Std.HashMap UInt64 (α × Nat) := {}

def place (places : UInt64) (numbers : List Nat) : UInt64 :=
  numbers.foldl (fun hash number => (hash ^^^ number.toUInt64) * 1099511628211)
    14695981039346656037 % places

namespace Shared

variable {α : Type}

def find? [DecidableEq α] (shared : Shared α) (place : UInt64) (key : α) : Option Nat :=
  (shared.places[place]?).bind fun (found, state) => if found = key then some state else none

def put (shared : Shared α) (place : UInt64) (key : α) (state : Nat) : Shared α :=
  ⟨shared.places.insert place (key, state)⟩

end Shared

structure Way where
  bytes : ByteRange
  target : Nat
  deriving DecidableEq, Repr

structure Sharing (α : Type) where
  built : Built
  shared : Shared α := {}

-- Forward

def stateWith (ways : List Way) (sharing : Sharing (List Way)) :
    Option (Nat × Sharing (List Way)) :=
  let place := place 10000 (ways.flatMap fun way => [way.bytes.low, way.bytes.high, way.target])
  match sharing.shared.find? place ways with
  | some state => some (state, sharing)
  | none =>
      let state := sharing.built.states
      (sharing.built.add (ways.length * byteWay)).map fun built =>
        (state, { built, shared := sharing.shared.put place ways state })

def startingWith (first : ByteRange) : List ByteRanges → List ByteRanges × List ByteRanges
  | (next :: rest) :: others =>
      if next = first then
        let (rests, others) := startingWith first others
        (rest :: rests, others)
      else ([], (next :: rest) :: others)
  | others => ([], others)

mutual

def forwardState (target : Nat) :
    Nat → List ByteRanges → Sharing (List Way) → Option (Nat × Sharing (List Way))
  | 0, _, _ => none
  | fuel + 1, sequences, sharing => do
      let (ways, sharing) ← forwardWays target fuel sequences sharing
      stateWith ways sharing

def forwardWays (target : Nat) :
    Nat → List ByteRanges → Sharing (List Way) → Option (List Way × Sharing (List Way))
  | 0, _, _ => none
  | fuel + 1, sequences, sharing =>
      match sequences with
      | (first :: rest) :: others => do
          let (rests, others) := startingWith first others
          let (state, sharing) ←
            if rest.isEmpty then some (target, sharing)
            else forwardState target fuel (rest :: rests) sharing
          let (ways, sharing) ← forwardWays target fuel others sharing
          return (⟨first, state⟩ :: ways, sharing)
      | _ => some ([], sharing)

end

def forwardSet (sequences : List ByteRanges) : Growth := fun built => do
  let grown ← Growth.plain built
  let (_, sharing) ←
    forwardState built.states (2 * sequences.length + 10) sequences { built := grown }
  return sharing.built

-- Backward

def backwardState :
    ByteRanges → Nat → Sharing (Nat × ByteRange) → Option (Sharing (Nat × ByteRange))
  | [], _, sharing => some sharing
  | bytes :: rest, target, sharing =>
      let place := place 1000 [target, bytes.low, bytes.high]
      match sharing.shared.find? place (target, bytes) with
      | some state => backwardState rest state sharing
      | none => do
          let state := sharing.built.states
          let built ← sharing.built.add 0
          backwardState rest state
            { built, shared := sharing.shared.put place (target, bytes) state }

def backwardSet (sequences : List ByteRanges) : Growth := fun built => do
  let grown ← Growth.both (.fork sequences.length) .plain built
  let target := built.states + 1
  let sharing ← sequences.foldlM (fun sharing sequence => backwardState sequence target sharing)
    { built := grown }
  return sharing.built

-- Both

inductive Direction where
  | forward
  | backward
  deriving DecidableEq, Repr

def Growth.ofSet (direction : Direction) (set : CharSet) : Growth :=
  if set.isAscii then .both .plain (.state (set.ranges.length * byteWay))
  else
    let sequences := ByteRanges.ofSet set
    match direction with
    | .forward => forwardSet sequences
    | .backward => backwardSet sequences

end GoldenSuite.Automaton
