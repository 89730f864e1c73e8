import GoldenSuite.Text.Blank

set_option autoImplicit false

namespace GoldenSuite.Text

def linesWithEnds : List Char → List (List Char)
  | [] => []
  | c :: rest =>
      if c = '\n' then [c] :: linesWithEnds rest
      else match linesWithEnds rest with
        | [] => [[c]]
        | line :: more => (c :: line) :: more

def dropLineEnd (line : List Char) : List Char :=
  match line.reverse with
  | '\n' :: '\r' :: body => body.reverse
  | '\n' :: body => body.reverse
  | _ => line

def lines (text : List Char) : List (List Char) := (linesWithEnds text).map dropLineEnd

def words : List Char → List (List Char)
  | [] => []
  | c :: rest =>
      if isBlank c then words rest
      else match rest, words rest with
        | d :: _, word :: more => if isBlank d then [c] :: word :: more else (c :: word) :: more
        | _, more => [c] :: more

@[simp] theorem flatten_linesWithEnds (text : List Char) : (linesWithEnds text).flatten = text := by
  induction text with
  | nil => rfl
  | cons c rest ih =>
    unfold linesWithEnds
    split
    · simp [ih]
    · split
      next h => simp [h] at ih; simp [← ih]
      next h => simp [h] at ih; simp [← ih]

end GoldenSuite.Text
