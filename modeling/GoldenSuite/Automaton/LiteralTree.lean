import GoldenSuite.Automaton.Built

set_option autoImplicit false

namespace GoldenSuite.Automaton

abbrev Bytes := List Nat

def byFirstByte (literals : List Bytes) : List (Nat × List Bytes) :=
  let firsts := (literals.filterMap List.head?).eraseDups.mergeSort
  firsts.map fun first =>
    (first, literals.filterMap fun literal =>
      if literal.head? = some first then some literal.tail else none)

def untilEnds : List Bytes → List (List Bytes)
  | [] => [[]]
  | [] :: literals => [] :: untilEnds literals
  | literal :: literals =>
      match untilEnds literals with
      | [] => [[literal]]
      | first :: others => (literal :: first) :: others

def dropRepeatedEnds : List Bytes → List Bytes
  | [] :: literals => [] :: literals.dropWhile List.isEmpty
  | literals => literals

def Growth.ofLiterals : Nat → List Bytes → Growth
  | 0, _ => some
  | fuel + 1, literals =>
      let groups := (untilEnds (dropRepeatedEnds literals)).map byFirstByte
      let rests := groups.flatMap fun group =>
        (group.map (·.2)).filter fun rests => rests.any (!·.isEmpty)
      let states := groups.filterMap fun group =>
        match group.length with
        | 0 => none
        | 1 => some .plain
        | count => some (.state (count * byteWay))
      all (rests.map (Growth.ofLiterals fuel) ++ states
        ++ [.fork (states.length + (groups.length - 1))])

end GoldenSuite.Automaton
