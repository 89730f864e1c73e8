import GoldenSuite.Shell.Actor

set_option autoImplicit false

namespace GoldenSuite.Shell

open Text (Octets)
open Utility (say Form)

namespace Gather

structure Begun where
  word : Option Octets := none
  line : List Octets := []
  lines : List (List Octets) := []

namespace Begun

def push (begun : Begun) (octets : Octets) : Begun :=
  { begun with word := some (octets.reverse ++ begun.word.getD []) }

def endWord (begun : Begun) : Begun :=
  match begun.word with
  | some word => { begun with word := none, line := word.reverse :: begun.line }
  | none => begun

def endLine (begun : Begun) : Begun :=
  let begun := begun.endWord
  if begun.line.isEmpty then begun
  else { begun with line := [], lines := begun.line.reverse :: begun.lines }

end Begun

def quoteName (quote : Char) : String := if quote = '"' then "double" else "single"

/-- The words of a text, line by line, or the quote that is left open. Blanks may be parts of words,
except at the start of a line. -/
def split (splitsBlanks : Bool) : Nat → Begun → Octets → Except Char (List (List Octets))
  | 0, begun, _ => .ok begun.endLine.lines.reverse
  | fuel + 1, begun, rest =>
      match rest with
      | [] => .ok begun.endLine.lines.reverse
      | '\n' :: rest => split splitsBlanks fuel begun.endLine rest
      | '\\' :: c :: rest => split splitsBlanks fuel (begun.push [c]) rest
      | c :: rest =>
          if c = '\'' || c = '"' then
            let body := rest.takeWhile fun d => d ≠ c && d ≠ '\n'
            match rest.drop body.length with
            | closing :: rest =>
                if closing = c then split splitsBlanks fuel (begun.push body) rest else .error c
            | [] => .error c
          else if (c = ' ' || c = '\t') && (splitsBlanks || begun.word.isNone) then
            split splitsBlanks fuel begun.endWord rest
          else split splitsBlanks fuel (begun.push [c]) rest

def parts (separator : Char) (text : Octets) : List Octets :=
  let found := text.splitOnP (· = separator)
  if found.getLast? = some [] then found.dropLast else found

def chunks {α : Type} (size : Nat) : Nat → List α → List (List α)
  | 0, _ | _, [] => []
  | fuel + 1, items => items.take size :: chunks size fuel (items.drop size)

def replaced (mark value : Octets) : Nat → Octets → Octets
  | 0, text => text
  | fuel + 1, text =>
      match text with
      | [] => []
      | c :: rest =>
          if !mark.isEmpty && mark.isPrefixOf text
          then value ++ replaced mark value fuel (text.drop mark.length)
          else c :: replaced mark value fuel rest

def number (letter : String) (written : Octets) : Script Nat := do
  if written.isEmpty || !written.all Char.isDigit then
    Actor.misused "xargs" 1
      [say "invalid number \"" ++ written ++ say s!"\" for -{letter} option"]
  let value := Settings.number written
  if value = 0 then
    Actor.misused "xargs" 1
      [say "value " ++ written ++ say s!" for -{letter} option should be >= 1"]
  return value

def separatorOf (written : Octets) : Char :=
  match written with
  | ['\\', 'n'] => '\n'
  | ['\\', 't'] => '\t'
  | ['\\', '0'] => '\x00'
  | c :: _ => c
  | [] => '\x00'

def runAll (run : Becoming) (environment : Environment) (traces : Bool) :
    List (List Octets) → Script Unit
  | [] => return
  | command :: rest => do
      let name := command.head?.getD []
      if traces then
        let words := command.map Utility.quotedIfNeeded
        Script.writeErr ((words.intersperse [' ']).flatten ++ ['\n'])
      match Program.find (← get).disk (Actor.searchPath environment) name with
      | .error fault =>
          Actor.tell "xargs" (name ++ say ": " ++ Utility.reason fault)
          throw (.exit (Actor.statusOf fault))
      | .ok (path, _) =>
          let nowhere ← Script.addChannel .nowhere
          let before ← Script.status
          match ← Script.inProcess (fun _ => return) do
              Script.setStream 0 (some nowhere)
              Script.setStatus 0
              run environment name path command.tail with
          | .exit 0 => Script.setStatus before
          | .exit 255 =>
              Actor.tell "xargs" (name ++ say ": exited with status 255; aborting")
              throw (.exit 124)
          | .exit _ => Script.setStatus 123
          | .killed signal =>
              Actor.tell "xargs" (name ++ say s!": terminated by signal {signal}")
              throw (.exit 125)
          | halt => throw halt
          runAll run environment traces rest

def xargs (run : Becoming) (environment : Environment) (arguments : List Octets) :
    Script Unit := do
  let form : Form :=
    { Form.of "0a:d:E:e::I:i::L:l::n:prs:tP:xo" [("null", "0"), ("arg-file:", "a"),
        ("delimiter:", "d"), ("replace::", "i"), ("max-lines::", "l"), ("max-args:", "n"),
        ("no-run-if-empty", "r"), ("verbose", "t"), ("max-procs:", "P"), ("exit", "x"),
        ("max-chars:", "s")] with isOrdered := true }
  let choice ← Actor.choose "xargs" form arguments
  let command := if choice.operands.isEmpty then [say "echo"] else choice.operands
  let text ← Script.input
  Script.leaveInput []
  let mark := match choice.last? "I", choice.last? "i" with
    | some mark, _ => some mark
    | none, some mark => some (if mark.isEmpty then say "\x7b\x7d" else mark)
    | none, none => none
  let separator := if choice.has "0" then some '\x00' else (choice.last? "d").map separatorOf
  let most ← match choice.last? "n" with
    | some written => do pure (some (← number "n" written))
    | none => pure none
  let mostLines ← match choice.last? "L" with
    | some written => do pure (some (← number "L" written))
    | none => pure (if choice.has "l" then some 1 else none)
  let lines ← match separator with
    | some c => pure ((parts c text).map ([·]))
    | none =>
        match split mark.isNone (text.length + 1) {} text with
        | .ok lines => pure lines
        | .error quote =>
            Actor.tell "xargs" (say (s!"unmatched {quoteName quote} quote; by default quotes are "
              ++ "special to xargs unless you use the -0 option"))
            throw (.exit 1)
  let words := lines.flatten
  let groups := match mark, most, mostLines with
    | some mark, _, _ =>
        lines.map fun line =>
          let value := (line.intersperse [' ']).flatten
          command.map fun word => replaced mark value word.length word
    | none, some size, _ => (chunks size words.length words).map (command ++ ·)
    | none, none, some size => (chunks size lines.length lines).map (command ++ ·.flatten)
    | none, none, none => if words.isEmpty then [] else [command ++ words]
  let runsOnce := groups.isEmpty && !choice.has "r" && mark.isNone
  Script.setStatus 0
  runAll run environment (choice.has "t") (if runsOnce then [command] else groups)

end Gather

end GoldenSuite.Shell
