import GoldenSuite.Decimal.Numeral
import GoldenSuite.Utility.Options

set_option autoImplicit false

namespace GoldenSuite.Utility.Format

open Text (Octets)

def controlEscape? : Char → Option Char
  | '\\' => some '\\'
  | 'a' => some '\x07'
  | 'b' => some '\x08'
  | 'e' => some '\x1b'
  | 'f' => some '\x0c'
  | 'n' => some '\n'
  | 'r' => some '\x0d'
  | 't' => some '\t'
  | 'v' => some '\x0b'
  | _ => none

def isOctal (c : Char) : Bool := '0' ≤ c && c ≤ '7'

def octal (most : Nat) (rest : Octets) : Char × Octets :=
  let digits := (rest.take most).takeWhile isOctal
  (Char.ofNat (Numeral.valueOf 8 digits % 256), rest.drop digits.length)

def hexadecimal? (most : Nat) (rest : Octets) : Option (Nat × Octets) :=
  let digits := (rest.take most).takeWhile fun c => (Numeral.digit? 16 c).isSome
  if digits.isEmpty then none else some (Numeral.valueOf 16 digits, rest.drop digits.length)

inductive Dialect where
  | shell
  | program
  deriving DecidableEq, Repr

def unescaped (dialect : Dialect) : Nat → Octets → Octets × Bool
  | 0, rest => (rest, false)
  | fuel + 1, '\\' :: c :: rest =>
      let follow (octets after : Octets) : Octets × Bool :=
        let (more, isCut) := unescaped dialect fuel after
        (octets ++ more, isCut)
      match controlEscape? c with
      | some octet => follow [octet] rest
      | none =>
          if c = 'c' then ([], true)
          else if isOctal c then
            let (octet, after) := octal 3 (if c = '0' then rest else c :: rest)
            follow [octet] after
          else match (if c = 'x' && dialect = .program then hexadecimal? 2 rest else none) with
            | some (code, after) => follow [Char.ofNat code] after
            | none => follow ['\\', c] rest
  | fuel + 1, c :: rest =>
      let (more, isCut) := unescaped dialect fuel rest
      (c :: more, isCut)
  | _ + 1, [] => ([], false)

structure Directive where
  flags : Octets := []
  width : Nat := 0
  precision : Option Nat := none
  letter : Char

def Directive.has (directive : Directive) (flag : Char) : Bool := directive.flags.contains flag

def pad (directive : Directive) (body : Octets) : Octets :=
  let missing := List.replicate (directive.width - body.length) ' '
  if directive.has '-' then body ++ missing else missing ++ body

def padZeros (directive : Directive) (lead digits : Octets) (fills : Bool) : Octets :=
  let count :=
    if fills && directive.has '0' && !directive.has '-' then
      directive.width - (lead.length + digits.length) else 0
  pad directive (lead ++ List.replicate count '0' ++ digits)

def signOf (directive : Directive) (isNegative : Bool) : Octets :=
  if isNegative then ['-'] else if directive.has '+' then ['+'] else if directive.has ' ' then [' ']
  else []

def isSigned (letter : Char) : Bool := letter = 'd' || letter = 'i'

def integer (directive : Directive) (value : Int) : Octets :=
  let letter := directive.letter
  let base := match letter with
    | 'o' => 8
    | 'x' | 'X' => 16
    | _ => 10
  let size := if isSigned letter then value.natAbs else (value % Int.pow 2 64).toNat
  let digits := Nat.toDigits base size
  let digits := if letter = 'X' then digits.map Char.toUpper else digits
  let digits := if size = 0 && directive.precision = some 0 then [] else digits
  let digits := List.replicate (directive.precision.getD 0 - digits.length) '0' ++ digits
  let digits :=
    if letter = 'o' && directive.has '#' && digits.head? ≠ some '0' then '0' :: digits else digits
  let base :=
    if directive.has '#' && size ≠ 0 && (letter = 'x' || letter = 'X') then ['0', letter] else []
  let sign := if isSigned letter then signOf directive (value < 0) else []
  padZeros directive (sign ++ base) digits directive.precision.isNone

def hexadecimalReal (lead places : Nat) (precision : Option Nat) (isKept : Bool) (num den : Nat) :
    Octets :=
  let exponent : Int :=
    if num = 0 then 0
    else
      let guess : Int := (num.log2 : Int) - den.log2
      let (n, d) := Binary64.scaled num den guess
      if n < d then guess - 1 else guess
  let least := exponent - (lead - 1 : Nat)
  let (n, d) := Binary64.scaled num den least
  let kept := precision.getD places
  let size := Binary64.divEven (n * Nat.pow 16 kept) d
  let digits := Nat.toDigits 16 size
  let digits := List.replicate (kept + 1 - digits.length) '0' ++ digits
  let whole := digits.take (digits.length - kept)
  let fraction := digits.drop (digits.length - kept)
  let fraction :=
    if precision.isNone then (fraction.reverse.dropWhile (· = '0')).reverse else fraction
  let power := if num = 0 then 0 else least
  let sign := if power < 0 then '-' else '+'
  ['0', 'x'] ++ whole ++ (if fraction.isEmpty && !isKept then [] else '.' :: fraction)
    ++ 'p' :: sign :: Nat.toDigits 10 power.natAbs

def real (dialect : Dialect) (directive : Directive) (isNegative : Bool) (size : Numeral.Size) :
    Octets :=
  let sign := signOf directive isNegative
  let isLarge := directive.letter.isUpper
  let cased (text : Octets) : Octets := if isLarge then text.map Char.toUpper else text
  match size with
  | .infinite => pad directive (sign ++ cased (say "inf"))
  | .undefined => pad directive (sign ++ cased (say "nan"))
  | .finite num den =>
      let places := directive.precision.getD 6
      let isKept := directive.has '#'
      let body := match directive.letter.toLower with
        | 'f' => Decimal.fixed num den places isKept
        | 'e' => Decimal.withExponent num den places isKept
        | 'g' => Decimal.general num den places isKept
        | _ =>
            if dialect = .shell then hexadecimalReal 1 13 directive.precision isKept num den
            else hexadecimalReal 4 15 directive.precision isKept num den
      let body := cased body
      if directive.letter.toLower = 'a' then padZeros directive (sign ++ body.take 2) (body.drop 2) true
      else padZeros directive sign body true

abbrev Printing := StateT (List Octets) Task

def next : Printing (Option Octets) := do
  match ← get with
  | [] => return none
  | argument :: rest =>
      set rest
      return some argument

def checkRest (dialect : Dialect) (argument rest : Octets) (isRead : Bool) : Task Unit := do
  if rest.isEmpty && isRead then return
  match dialect with
  | .shell =>
      if isRead then Task.complain (argument ++ say ": not completely converted")
      else if !argument.isEmpty then Task.complain (argument ++ say ": expected numeric value")
  | .program =>
      if isRead then Task.complain (cited argument ++ say ": value not completely converted")
      else if !argument.isEmpty then
        Task.complain (cited argument ++ say ": expected a numeric value")

def outOfRange (dialect : Dialect) (argument : Octets) : Task Unit :=
  let shown := match dialect with
    | .shell => argument
    | .program => cited argument
  Task.complain (shown ++ say ": Numerical result out of range")

def quotedCode? (dialect : Dialect) : Octets → Option Nat
  | '\'' :: c :: _ | '"' :: c :: _ => some c.toNat
  | ['\''] | ['"'] => if dialect = .shell then some 0 else none
  | _ => none

def nextInteger (dialect : Dialect) (isSigned : Bool) : Printing Int := do
  match ← next with
  | none => return 0
  | some argument =>
      if let some code := quotedCode? dialect argument then
        if dialect = .program && 2 < argument.length then
          Task.warn (say (← getThe Bench).name ++ say ": warning: " ++ argument.drop 2
            ++ say ": character(s) following character constant have been ignored\n")
        return code
      match Numeral.whole? argument with
      | none =>
          checkRest dialect argument argument false
          return 0
      | some (isNegative, size, rest) =>
          let value : Int := if isNegative then -(size : Int) else size
          let low : Int := if isSigned then -(Int.pow 2 63) else -(Int.pow 2 64 - 1)
          let high : Int := if isSigned then Int.pow 2 63 - 1 else Int.pow 2 64 - 1
          if !rest.isEmpty then checkRest dialect argument rest true
          else if value < low || high < value then outOfRange dialect argument
          if isSigned then return max low (min high value)
          else return if value < low || high < value then high else value

def nextReal (dialect : Dialect) : Printing (Bool × Numeral.Size) := do
  match ← next with
  | none => return (false, .finite 0 1)
  | some argument =>
      if let some code := quotedCode? dialect argument then return (false, .finite code 1)
      match Numeral.size? argument with
      | none =>
          checkRest dialect argument argument false
          return (false, .finite 0 1)
      | some (isNegative, size, rest) =>
          checkRest dialect argument rest true
          match size, dialect with
          | .finite num den, .shell =>
              match Binary64.nearest? num den with
              | some value => return (isNegative, .finite value.ratio.1 value.ratio.2)
              | none =>
                  if rest.isEmpty then outOfRange dialect argument
                  return (isNegative, .infinite)
          | .finite num den, .program =>
              let (num, den) := Decimal.toBits 64 num den
              return (isNegative, .finite num den)
          | size, _ => return (isNegative, size)

def count (dialect : Dialect) (isPrecision : Bool) (rest : Octets) :
    Printing (Option Int × Octets) := do
  match rest with
  | '*' :: rest => return (some (← nextInteger dialect true), rest)
  | _ =>
      let digits := rest.takeWhile Char.isDigit
      let value := if digits.isEmpty && !isPrecision then none
        else some (Numeral.valueOf 10 digits : Int)
      return (value, rest.drop digits.length)

def isFlag (c : Char) : Bool := "-+ #0'".toList.contains c

def isSize (dialect : Dialect) (c : Char) : Bool :=
  dialect = .program && "hlLjzt".toList.contains c

def direct (dialect : Dialect) (rest : Octets) : Printing (Octets × Bool) := do
  let flags := rest.takeWhile isFlag
  let (width, afterWidth) ← count dialect false (rest.drop flags.length)
  let (precision, afterPrecision) ← match afterWidth with
    | '.' :: more => count dialect true more
    | _ => pure (none, afterWidth)
  let last := afterPrecision.dropWhile (isSize dialect)
  let written := '%' :: rest.take (rest.length - last.length + 1)
  match last with
  | [] =>
      match dialect with
      | .shell => Task.give (say "missing format character") 2
      | .program => Task.give (written ++ say ": invalid conversion specification")
  | letter :: after =>
      let isLeft := width.any (· < 0)
      let directive : Directive :=
        { flags := if isLeft then '-' :: flags else flags
          width := (width.getD 0).natAbs
          precision := precision.bind fun count => if count < 0 then none else some count.toNat
          letter }
      match letter with
      | 's' =>
          let argument := (← next).getD []
          Task.write (pad directive (argument.take (directive.precision.getD argument.length)))
          return (after, false)
      | 'c' =>
          let argument := (← next).getD []
          let shown := if argument.isEmpty then ['\x00'] else argument.take 1
          Task.write (pad directive shown)
          return (after, false)
      | 'b' =>
          if dialect = .program && written.length ≠ 2 then
            Task.give (written ++ say ": invalid conversion specification")
          let argument := (← next).getD []
          let (text, isCut) := unescaped dialect argument.length argument
          Task.write (pad directive (text.take (directive.precision.getD text.length)))
          return (after, isCut)
      | 'd' | 'i' | 'o' | 'u' | 'x' | 'X' =>
          let value ← nextInteger dialect (isSigned letter)
          Task.write (integer directive value)
          return (after, false)
      | 'e' | 'E' | 'f' | 'F' | 'g' | 'G' | 'a' | 'A' =>
          let (isNegative, size) ← nextReal dialect
          Task.write (real dialect directive isNegative size)
          return (after, false)
      | _ =>
          if letter = 'q' && dialect = .program then
            Task.write (quotedIfNeeded ((← next).getD []))
            return (after, false)
          match dialect with
          | .shell => Task.give (written ++ say ": invalid directive") 2
          | .program =>
              let shown := if letter.isAlpha then written ++ after.take 1 else written
              Task.give (shown ++ say ": invalid conversion specification")

def once (dialect : Dialect) : Nat → Octets → Printing Bool
  | 0, _ | _ + 1, [] => return false
  | fuel + 1, '\\' :: c :: rest => do
      match controlEscape? c with
      | some octet =>
          Task.write [octet]
          once dialect fuel rest
      | none =>
          if isOctal c then
            let (octet, after) := octal 3 (c :: rest)
            Task.write [octet]
            once dialect fuel after
          else match dialect with
            | .shell =>
                Task.write ['\\', c]
                once dialect fuel rest
            | .program =>
                if c = '"' then
                  Task.write [c]
                  once dialect fuel rest
                else if c = 'c' then return true
                else if c = 'x' then
                  match hexadecimal? 2 rest with
                  | none => Task.give (say "missing hexadecimal number in escape")
                  | some (code, after) =>
                      Task.write [Char.ofNat code]
                      once dialect fuel after
                else
                  Task.write ['\\', c]
                  once dialect fuel rest
  | fuel + 1, '%' :: '%' :: rest => do
      Task.write ['%']
      once dialect fuel rest
  | fuel + 1, '%' :: rest => do
      let (after, isCut) ← direct dialect rest
      if isCut then return true else once dialect fuel after
  | fuel + 1, c :: rest => do
      Task.write [c]
      once dialect fuel rest

def repeated (dialect : Dialect) (format : Octets) : Nat → Printing Unit
  | 0 => return
  | fuel + 1 => do
      let before := (← get).length
      if ← once dialect (format.length + 1) format then
        set ([] : List Octets)
        return
      let after := (← get).length
      if after = 0 || after = before then return
      repeated dialect format fuel

def print (dialect : Dialect) (format : Octets) (arguments : List Octets) : Task (List Octets) := do
  return (← (repeated dialect format (arguments.length + 1)).run arguments).2

def shellTask (arguments : List Octets) : Task Unit := do
  let arguments := if arguments.head? = some ['-', '-'] then arguments.tail else arguments
  match arguments with
  | [] => Task.give (say "usage: printf format [arg ...]") 2
  | format :: arguments =>
      let _ ← print .shell format arguments

def task (arguments : List Octets) : Task Unit := do
  let arguments := if arguments.head? = some ['-', '-'] then arguments.tail else arguments
  match arguments with
  | [] => Task.misused (say "missing operand")
  | format :: arguments =>
      match ← print .program format arguments with
      | extra :: _ =>
          Task.warn (say (← get).name ++ say ": warning: ignoring excess arguments, starting with "
            ++ cited extra ++ ['\n'])
      | [] => return

end GoldenSuite.Utility.Format
