/-!
Automata of limited size. Of an automaton that is being built only the number of its states is kept
and the room that the ways between them take.
-/

set_option autoImplicit false

namespace GoldenSuite.Automaton

structure Built where
  states : Nat := 0
  ways : Nat := 0
  deriving DecidableEq, Repr

def limit : Nat := 10 * 1024 * 1024

def stateSize : Nat := 32

def byteWay : Nat := 8

def openWay : Nat := 4

def Built.size (built : Built) : Nat := built.states * stateSize + built.ways

def Built.add (built : Built) (ways : Nat) : Option Built :=
  let built := { states := built.states + 1, ways := built.ways + ways }
  if built.size ≤ limit then some built else none

abbrev Growth := Built → Option Built

namespace Growth

def state (ways : Nat) : Growth := fun built => built.add ways

def plain : Growth := state 0

def fork (ways : Nat) : Growth := state (ways * openWay)

def both (first second : Growth) : Growth := fun built => (first built).bind second

def all (steps : List Growth) : Growth := steps.foldl both some

def repeated (step : Growth) : Nat → Growth
  | 0 => some
  | count + 1 => fun built =>
      match step built with
      | some built => repeated step count built
      | none => none

end Growth

end GoldenSuite.Automaton
