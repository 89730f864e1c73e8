import GoldenSuite.Files.Store
import GoldenSuite.World

/-!
Stand-in tools, which answer by a script and act on files in memory. They see through a store that
refuses to be written, and read text leniently.
-/

set_option autoImplicit false

namespace GoldenSuite

inductive StandInData where
  | bytes (data : ByteArray)
  | text (text : String)

structure CompilerAction where
  -- Endings put on the source path without its own, and what is written there.
  writes : List (String × StandInData)
  output : Output

inductive StandIn where
  | fixed (output : Output)
  | series (outputs : List Output)
  | arguments
  | echo
  | difference
  -- Copies the third argument to the second, with a text in front and a replacement.
  | copy (heading : String) (replacement : Option (String × String))
  -- Does what belongs to the first mark that occurs in the source, the last argument.
  | compiler (cases : List (String × CompilerAction)) (otherwise : CompilerAction)

namespace StandIn

def succeeded (stdout : String) : Output := ⟨.status 0, stdout, ""⟩

def argument (invocation : Invocation) (index : Nat) : String := (invocation.args[index]?).getD ""

def fromEnd (invocation : Invocation) (distance : Nat) : String :=
  (invocation.args.reverse[distance]?).getD ""

def textAt (files : Store) (path : String) : String := (files.text? ⟨path⟩).getD ""

def withoutBlanks (text : String) : List Char := text.toList.filter fun c => !Text.isBlank c

def diff (left right : Option String) : Output :=
  match left, right with
  | some left, some right =>
      if withoutBlanks left = withoutBlanks right then succeeded ""
      else ⟨.status 1, "-" ++ left ++ "+" ++ right, ""⟩
  | _, _ => ⟨.status 2, "", "diff: No such file or directory\n"⟩

def replaced (replacement : Option (String × String)) (text : String) : String :=
  match replacement with
  | some (mark, instead) =>
      String.ofList (Text.replaceAll mark.toList instead.toList text.toList)
  | none => text

def withSource (source text : String) : String :=
  String.ofList (Text.replaceAll ['%', 's'] source.toList text.toList)

def writeAll (source : String) (files : Store) (writes : List (String × StandInData)) : Store :=
  let stem := String.ofList (Text.dropSuffix ".syp".toList source.toList)
  writes.foldl (fun files (ending, data) =>
    files.insert ⟨stem ++ ending⟩ <|
      match data with
      | .bytes data => data
      | .text text => (withSource source text).toUTF8) files

def compile (source : String) (files : Store) (action : CompilerAction) : Output × Store :=
  let output := action.output
  ({ output with
      stdout := withSource source output.stdout
      stderr := withSource source output.stderr },
    writeAll source files action.writes)

def answer (standIn : StandIn) (earlier : Nat) (invocation : Invocation) (files : Store) :
    Output × Store :=
  match standIn with
  | fixed output => (output, files)
  | series outputs => ((outputs[earlier]?.or outputs.getLast?).getD (succeeded ""), files)
  | arguments => (succeeded (String.intercalate "|" invocation.args ++ "\n"), files)
  | echo => (succeeded (textAt files (fromEnd invocation 0)), files)
  | difference =>
      (diff (files.text? ⟨fromEnd invocation 1⟩) (files.text? ⟨fromEnd invocation 0⟩), files)
  | copy heading replacement =>
      let source := argument invocation 2
      match files.text? ⟨source⟩ with
      | none => (⟨.status 1, "", s!"{invocation.program}: {source}: not found\n"⟩, files)
      | some text =>
          let target : Path := ⟨argument invocation 1⟩
          (succeeded "", files.insert target (heading ++ replaced replacement text).toUTF8)
  | compiler cases otherwise =>
      let source := fromEnd invocation 0
      let text := (textAt files source).toList
      let action := (cases.find? fun (mark, _) => Text.occurs mark.toList text).map (·.2)
      compile source files (action.getD otherwise)

end StandIn

structure StandIns where
  scripts : List (String × Nat × StandIn) := []

namespace StandIns

def place (standIns : StandIns) (program : String) (callsBefore : Nat) (standIn : StandIn) :
    StandIns :=
  ⟨(program, callsBefore, standIn) :: standIns.scripts⟩

def tools (standIns : StandIns) : Tools Store := fun history invocation files =>
  match standIns.scripts.lookup invocation.program with
  | none => (.error ⟨invocation.program, "no scripted handler", .launch⟩, files)
  | some (callsBefore, standIn) =>
      let since := history.drop callsBefore
      let earlier := since.countP fun call => call.program = invocation.program
      let (output, files) := standIn.answer earlier invocation files
      (.ok output, files)

end StandIns

end GoldenSuite
