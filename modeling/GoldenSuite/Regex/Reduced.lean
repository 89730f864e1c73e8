import GoldenSuite.Regex.Basic

set_option autoImplicit false

namespace GoldenSuite.Regex

def ofSet (set : CharSet) : Regex :=
  match set.onlyChar? with
  | some c => literal [c]
  | none => one set

mutual

def isAtMostEmpty : Regex → Bool
  | empty | look _ => true
  | literal _ | one _ => false
  | group body => isAtMostEmpty body
  | times body _ most => most = some 0 || (most.isSome && isAtMostEmpty body)
  | sequence parts | choice parts => areAtMostEmpty parts

def areAtMostEmpty : List Regex → Bool
  | [] => true
  | part :: parts => isAtMostEmpty part && areAtMostEmpty parts

end

/-- A repetition. Of what is empty one is as good as many, and one of anything is no repetition. -/
def ofTimes (body : Regex) (least : Nat) (most : Option Nat) : Regex :=
  let (least, most) :=
    if isAtMostEmpty body then (min least 1, some (min (most.getD 1) 1)) else (least, most)
  if most = some 0 then empty
  else if least = 1 && most = some 1 then body
  else times body least most

def partsOf : Regex → List Regex
  | sequence parts => parts
  | empty => []
  | regex => [regex]

def joinLiterals : List Regex → List Regex
  | [] => []
  | part :: parts =>
      match part, joinLiterals parts with
      | literal first, literal second :: rest => literal (first ++ second) :: rest
      | part, rest => part :: rest

def ofSequence (parts : List Regex) : Regex :=
  match joinLiterals (parts.flatMap partsOf) with
  | [] => empty
  | [part] => part
  | parts => sequence parts

def chars? : Regex → Option CharSet
  | literal [c] => some (.single c)
  | one set => some set
  | _ => none

mutual

/-- The expressions are written alike. No two groups are. -/
def isSame : Regex → Regex → Bool
  | empty, empty => true
  | literal first, literal second => first = second
  | one first, one second => first = second
  | look first, look second => first = second
  | times first least most, times second leastToo mostToo =>
      least = leastToo && most = mostToo && isSame first second
  | sequence first, sequence second | choice first, choice second => areSame first second
  | _, _ => false

def areSame : List Regex → List Regex → Bool
  | [], [] => true
  | first :: firsts, second :: seconds => isSame first second && areSame firsts seconds
  | _, _ => false

end

def commonLength (first second : List Regex) : Nat :=
  ((first.zip second).takeWhile fun (left, right) => isSame left right).length

def sequences? (options : List Regex) : Option (List (List Regex)) :=
  options.mapM fun option => match option with
    | sequence parts => some parts
    | _ => none

def optionsOf : Regex → List Regex
  | choice options => options
  | regex => [regex]

def choiceOf (options : List Regex) : Regex :=
  match options with
  | [option] => option
  | options =>
      match options.mapM chars? with
      | some sets => ofSet (.unions sets)
      | none => choice options

def ofChoice (options : List Regex) : Regex :=
  let options := options.flatMap optionsOf
  match choiceOf options, sequences? options with
  | choice options, some (first :: others) =>
      let common := others.foldl (fun common parts => min common (commonLength first parts))
        first.length
      if common = 0 then choice options
      else
        let rests := (first :: others).map fun parts => ofSequence (parts.drop common)
        ofSequence (first.take common ++ [choiceOf (rests.flatMap optionsOf)])
  | regex, _ => regex

end GoldenSuite.Regex
