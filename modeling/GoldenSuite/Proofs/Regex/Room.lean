import GoldenSuite.Regex.Size

set_option autoImplicit false

namespace GoldenSuite

namespace Automaton

def Built.grown (built : Built) (states ways : Nat) : Built :=
  { states := built.states + states, ways := built.ways + ways }

theorem Built.size_grown (built : Built) (states ways : Nat) :
    (built.grown states ways).size = built.size + (states * stateSize + ways) := by
  simp only [size, grown, Nat.add_mul]
  omega

theorem Built.grown_grown (built : Built) (states ways more further : Nat) :
    (built.grown states ways).grown more further = built.grown (states + more) (ways + further) := by
  simp only [grown, Nat.add_assoc]

namespace Growth

def adding (states ways : Nat) : Growth := fun built =>
  if (built.grown states ways).size ≤ limit then some (built.grown states ways) else none

theorem state_eq_adding (ways : Nat) : state ways = adding 1 ways := rfl

-- Where the first step finds no room, there is none for both.
theorem both_adding (states ways more further : Nat) :
    both (adding states ways) (adding more further) = adding (states + more) (ways + further) := by
  funext built
  simp only [both, adding, ← Built.grown_grown]
  by_cases room : (built.grown states ways).size ≤ limit
  next => rw [if_pos room, Option.bind_some, adding]
  next =>
    have later := (built.grown states ways).size_grown more further
    rw [if_neg room, Option.bind_none, if_neg]
    omega

theorem repeated_succ (step : Growth) (count : Nat) :
    repeated step (count + 1) = both step (repeated step count) := by
  funext built
  simp only [both, repeated]
  cases step built <;> rfl

theorem repeated_plain (count : Nat) : repeated plain (count + 1) = adding (count + 1) 0 := by
  induction count with
  | zero =>
    funext built
    rw [repeated_succ, both, plain, state_eq_adding]
    cases adding 1 0 built <;> rfl
  | succ count ih =>
    rw [repeated_succ, ih, plain, state_eq_adding, both_adding, Nat.add_comm 1, Nat.add_zero]

theorem all_three (first second third : Growth) :
    all [first, second, third] = both (both first second) third := rfl

end Growth

end Automaton

namespace Regex

open Automaton Growth

variable (chars : List Char)

theorem growth_literal (direction : Direction) :
    growth direction (literal chars) = .repeated .plain (bytesOf chars).length := rfl

theorem growth_group (body : Regex) :
    growth .forward (group body) = .all [.plain, growth .forward body, .plain] := rfl

theorem isAnchored_literal (direction : Direction) :
    isAnchored direction (literal chars) = false := by
  simp [isAnchored]

-- In front are the three states that let a match start anywhere, behind is the one that ends it;
-- reading forward also remembers where the match begins and ends.
theorem automaton?_literal {count : Nat} (bytes : (bytesOf chars).length = count + 1) :
    automaton? .forward (literal chars) = adding (count + 7) 16 {} ∧
      automaton? .backward (literal chars) = adding (count + 5) 16 {} := by
  have start : Growth.all [fork 2, plain, Growth.state byteWay] = adding 3 16 := by
    simp only [all_three, fork, plain, state_eq_adding, both_adding]
    rfl
  have body : growth .forward (group (literal chars)) = adding (count + 3) 0 := by
    rw [growth_group, growth_literal, bytes, repeated_plain, all_three, plain, state_eq_adding,
      both_adding, both_adding]
    congr 1
    omega
  simp only [automaton?, isAnchored_literal, Bool.false_eq_true, if_false, start, body,
    growth_literal, bytes, repeated_plain]
  simp only [all_three, plain, state_eq_adding, both_adding]
  constructor <;> congr 1 <;> omega

theorem isSome_adding_iff (states ways : Nat) :
    (adding states ways {}).isSome = true ↔ states * stateSize + ways ≤ limit := by
  rw [adding, Built.size_grown, Option.isSome_ite]
  simp [Built.size]

def mostBytes : Nat := 327673

/-- A literal fits when its bytes have room beside what is built for every expression. -/
theorem fits_literal_iff : (literal chars).fits = true ↔ (bytesOf chars).length ≤ mostBytes := by
  rcases bytes : (bytesOf chars).length with _ | count
  next =>
    have room : (literal chars).fits = true := by
      simp only [fits, automaton?, isAnchored_literal, growth_group, growth_literal, bytes]
      rfl
    simp [room]
  next =>
    obtain ⟨forward, backward⟩ := automaton?_literal chars bytes
    rw [fits, forward, backward, Bool.and_eq_true, isSome_adding_iff, isSome_adding_iff]
    simp only [stateSize, limit, mostBytes]
    omega

end Regex

end GoldenSuite
