import GoldenSuite.Shell.Arithmetic
import GoldenSuite.Shell.Directory
import GoldenSuite.Shell.Field
import GoldenSuite.Shell.Gather
import GoldenSuite.Shell.Input
import GoldenSuite.Shell.Order
import GoldenSuite.Shell.Reader

set_option autoImplicit false

namespace GoldenSuite.Shell

open Text (Octets)
open Utility (say)

namespace Script

inductive Target where
  | file (stream : Nat) (opening : Opening) (name : Octets)
  | copy (stream : Nat) (source : Option Nat)
  | document (stream number : Nat)

def isMissing (value : Option Octets) (orEmpty : Bool) : Bool :=
  match value with
  | none => true
  | some octets => orEmpty && octets.isEmpty

def withoutLineEnds (octets : Octets) : Octets := (octets.reverse.dropWhile (· = '\n')).reverse

def isArguments (name : Octets) : Bool := name = ['@'] || name = ['*']

def checkValue (name : Octets) (value : Option Octets) : Script Unit := do
  if value.isNone && (← settings).has 'u' && !isArguments name then
    fail (name ++ say ": parameter not set")

def checkStatus (mode : Mode) : Script Unit := do
  let settings ← settings
  if settings.has 'e' && !mode.isTested && settings.status ≠ 0 then
    throw (.exit settings.status)

def roundEnd : Except Halt Unit → Option (Except Halt Unit)
  | .ok () | .error (.again 0) | .error (.again 1) => none
  | .error (.again (levels + 1)) => some (.error (.again levels))
  | .error (.leave (levels + 2)) => some (.error (.leave (levels + 1)))
  | .error (.leave _) => some (.ok ())
  | .error halt => some (.error halt)

def inLoop (body : Script Unit) : Script Unit := do
  let loops := (← settings).loops
  adjust fun settings => { settings with loops := loops + 1 }
  let result ← settle body
  adjust fun settings => { settings with loops }
  resume result

def callLimit : Nat := 1000

def inCall (arguments : List Octets) (body : Script Unit) : Script Unit := do
  let before ← settings
  if callLimit ≤ before.depth then
    fail (say s!"Maximum function recursion depth ({callLimit}) reached")
  adjust fun settings =>
    { settings with
      arguments, optionIndex := 1, optionOffset := 0, loops := 0, depth := before.depth + 1 }
  let result ← settle (inScope body)
  adjust fun settings =>
    { settings with
      arguments := before.arguments, optionIndex := before.optionIndex
      optionOffset := before.optionOffset, loops := before.loops, depth := before.depth }
  match result with
  | .error .back => return
  | result => resume result

def under (name : Octets) (body : Script Unit) : Script Unit := do
  let before := (← settings).running
  adjust fun settings => { settings with running := some name }
  let result ← settle body
  adjust fun settings => { settings with running := before }
  resume result

def keepingStreams (body : Script Unit) : Script Unit := do
  let streams := (← settings).streams
  let result ← settle body
  adjust fun settings => { settings with streams }
  resume result

def assignFor (order : Order) (name value : Octets) : Script Unit := do
  if !order.keepsSettings then makeLocal name
  assign name value
  if !order.keepsSettings || order.showsSettings then
    mark (fun binding => { binding with isExported := true }) name

def isAbsent (fault : FileFault) : Bool := fault = .noEntry || fault = .notDirectory

def refuse (name : Octets) (fault : FileFault) : Script Unit :=
  complain (name ++ say ": " ++ if isAbsent fault then say "not found" else Utility.reason fault)

def scriptFile (name : Octets) : Script Octets := do
  match (← get).disk.bytes (Utility.pathOf name) with
  | .ok data => return Text.Octets.ofBytes data
  | .error fault => fail (refusal .read name fault)

def sourcePath (name : Octets) : Script Octets := do
  if name.contains '/' then return name
  let machine ← get
  let directories := Program.directories (Meaning.pathOf machine.settings)
  match Program.searchFile machine.disk name .noEntry directories with
  | .ok path => return path
  | .error _ => fail (name ++ say ": not found")

def builtins : List (String × (List Octets → Script Unit)) :=
  [(":", fun _ => setStatus 0), ("true", fun _ => setStatus 0), ("false", fun _ => setStatus 1),
    ("[", fun arguments => workInside (Utility.Condition.bracketTask arguments)),
    ("alias", setAliases), ("bg", resumeJob), ("break", leaveLoops), ("cd", changeDirectory),
    ("chdir", changeDirectory), ("command", tellCommand), ("continue", repeatLoop),
    ("echo", fun arguments => answer (Utility.shellEcho arguments)), ("exit", exitScript),
    ("export", exportNames), ("fg", resumeJob), ("getopts", nextOption), ("hash", trackAll),
    ("jobs", tellJobs), ("kill", kill), ("local", localNames),
    ("printf", fun arguments => workInside (Utility.Format.shellTask arguments)),
    ("pwd", tellDirectory), ("read", readLine), ("readonly", protectNames), ("return", goBack),
    ("set", setOptions), ("shift", shiftArguments),
    ("test", fun arguments => workInside (Utility.Condition.task arguments)),
    ("times", fun _ => tellTimes), ("trap", setTraps), ("type", tellMeanings),
    ("ulimit", tellLimits), ("umask", setMask), ("unalias", unsetAliases), ("unset", unsetNames),
    ("wait", waitForJobs)]

mutual

/-- What a word expands to. Values that are not quoted are split if fields are wanted. -/
def atoms : Nat → Bool → Word → Script (List Atom)
  | 0, _, _ => throw .exhausted
  | fuel + 1, splits, word => do return (← word.mapM (atomsOf fuel splits)).flatten

def atomsOf : Nat → Bool → Piece → Script (List Atom)
  | 0, _, _ => throw .exhausted
  | _ + 1, _, .text true octets => return Atom.ofQuoted octets
  | _ + 1, _, .text false octets => return octets.map (.octet false)
  | fuel + 1, splits, .parameter isQuoted name use => do
      let settings ← settings
      let value := settings.parameter? name
      let shown (value : Option Octets) : Script (List Atom) :=
        return Atom.ofValue isQuoted splits (value.getD [])
      match use with
      | .value =>
          checkValue name value
          if splits && (name = ['@'] || (name = ['*'] && !isQuoted)) then
            return Atom.ofArguments isQuoted settings.arguments
          else shown value
      | .length =>
          checkValue name value
          shown (some (Utility.decimal (value.getD []).length))
      | .fallback orEmpty word =>
          if isMissing value orEmpty then atoms fuel splits (Tilde.expanded settings false word)
          else if splits && (name = ['@'] || (name = ['*'] && !isQuoted)) then
            return Atom.ofArguments isQuoted settings.arguments
          else shown value
      | .initial orEmpty word =>
          if isMissing value orEmpty then
            let found ← plain fuel (Tilde.expanded settings false word)
            assign name found
            shown (some found)
          else shown value
      | .instead orEmpty word =>
          if isMissing value orEmpty then return []
          else atoms fuel splits (Tilde.expanded settings false word)
      | .required orEmpty word =>
          if isMissing value orEmpty then
            let text ← if word.isEmpty then
                pure (say (if orEmpty then "parameter not set or null" else "parameter not set"))
              else plain fuel (Tilde.expanded settings false word)
            fail (name ++ say ": " ++ text)
          else shown value
      | .trimmed trim word =>
          checkValue name value
          let pattern := Atom.marked (← atoms fuel false (Tilde.expanded settings false word))
          shown (some (trim.apply pattern (value.getD [])))
      | .senseless => fail (say "Bad substitution")
  | fuel + 1, splits, .output isQuoted body => do
      let before ← status
      let written ← captured (runTrap fuel) (execute fuel { isLast := true } body)
      adjust fun settings => { settings with yielded := settings.status, status := before }
      return Atom.ofValue isQuoted splits (withoutLineEnds written)
  | fuel + 1, splits, .arithmetic isQuoted expression => do
      let text ← plain fuel expression
      let settings ← settings
      let valueOf (name : Octets) : Octets := (settings.parameter? name).getD []
      match Arithmetic.evaluate valueOf text with
      | .ok (value, changes) =>
          changes.forM fun (name, value) => assign name (say (toString value))
          return Atom.ofValue isQuoted splits (say (toString value))
      | .error fault => fail (fault.message text)

def plain : Nat → Word → Script Octets
  | 0, _ => throw .exhausted
  | fuel + 1, word => do return (Atom.marked (← atoms fuel false word)).text

def valueOf : Nat → Word → Script Octets
  | 0, _ => throw .exhausted
  | fuel + 1, word => do plain fuel (Tilde.expanded (← settings) true word)

def fieldsOfWord : Nat → Word → Script (List Octets)
  | 0, _ => throw .exhausted
  | fuel + 1, word => do
      let expanded ← atoms fuel true (Tilde.expanded (← settings) false word)
      let machine ← get
      let settings := machine.settings
      let separators := (settings.value? "IFS").getD " \t\n".toList
      let found := Atom.fields separators expanded
      return if settings.has 'f' then found.map (·.text)
        else found.flatMap (fileNames machine.disk)

def fieldsOf : Nat → List Octets → List Word → Script (List Octets)
  | 0, _, _ => throw .exhausted
  | _ + 1, known, [] => return known
  | fuel + 1, known, word :: rest => do
      let isSetting := (Order.of (← settings) known).declares && (Reading.setting? word).isSome
      let found ← if isSetting then do pure [← valueOf fuel word] else fieldsOfWord fuel word
      fieldsOf fuel (known ++ found) rest

def targetsOf : Nat → List Redirection → Script (List Target)
  | 0, _ => throw .exhausted
  | fuel + 1, redirections => do
      redirections.mapM fun redirection => do
        match redirection with
        | .file stream opening word =>
            return .file stream opening (← plain fuel (Tilde.expanded (← settings) false word))
        | .copy stream word => return .copy stream (← sourceOf (← plain fuel word))
        | .document stream number => return .document stream number

def openAll : Nat → List Target → Script Bool
  | 0, _ => throw .exhausted
  | fuel + 1, targets => do
      let result ← settle (targets.forM fun target => do
        match target with
        | .file stream opening name => lead stream opening name
        | .copy stream source => copyStream stream source
        | .document stream number =>
            let text ← plain fuel ((← settings).documents[number]?.getD [])
            setStream stream (some (← addChannel (.text text))))
      match result with
      | .ok () => return true
      | .error .failed => return false
      | .error halt => throw halt

def execute : Nat → Mode → Command → Script Unit
  | 0, _, _ => throw .exhausted
  | _ + 1, _, .nothing => return
  | fuel + 1, mode, .simple line settings words redirections => do
      count
      if (← Script.settings).has 'n' then return
      adjust fun settings => { settings with line, yielded := 0 }
      simple fuel mode settings words redirections
      answerSignals (runTrap fuel)
      checkStatus mode
  | fuel + 1, mode, .redirected line body redirections => do
      adjust fun settings => { settings with line }
      let targets ← targetsOf fuel redirections
      keepingStreams do
        if ← openAll fuel targets then execute fuel mode.part body
        else
          setStatus 2
          checkStatus mode
  | fuel + 1, mode, .sequence first second => do
      execute fuel mode.part first
      execute fuel mode second
  | fuel + 1, mode, .both first second => do
      execute fuel .test first
      if (← status) = 0 then execute fuel mode second
  | fuel + 1, mode, .either first second => do
      execute fuel .test first
      if (← status) ≠ 0 then execute fuel mode second
  | fuel + 1, _, .negated body => do
      execute fuel .test body
      setStatus (if (← status) = 0 then 1 else 0)
  | fuel + 1, mode, .piped parts => do
      let start := (← get).clock
      let isOverdue ← pipe fuel { mode with isLast := true } start start none parts
      if isOverdue then throw .overdue
      answerSignals (runTrap fuel)
      checkStatus mode
  | fuel + 1, mode, .background line body redirections => do
      if 0 < line then adjust fun settings => { settings with line }
      behind (runTrap fuel) (alone fuel { isLast := true } redirections body)
      checkStatus mode
  | fuel + 1, mode, .apart line body redirections => do
      adjust fun settings => { settings with line }
      apart (runTrap fuel) (alone fuel { mode with isLast := true } redirections body)
      answerSignals (runTrap fuel)
      checkStatus mode
  | fuel + 1, mode, .conditional test body otherwise => do
      execute fuel .test test
      if (← status) = 0 then execute fuel mode body
      else if otherwise.isNothing then setStatus 0
      else execute fuel mode otherwise
  | fuel + 1, mode, .loop untilSuccess test body =>
      inLoop (rounds fuel mode.part untilSuccess test body 0)
  | fuel + 1, mode, .each line name words body => do
      adjust fun settings => { settings with line }
      let values ← fieldsOf fuel [] words
      setStatus 0
      inLoop (roundsFor fuel mode.part name body values)
  | fuel + 1, mode, .choice line word branches => do
      adjust fun settings => { settings with line }
      let subject ← plain fuel (Tilde.expanded (← settings) false word)
      setStatus 0
      choose fuel mode subject branches
  | _ + 1, _, .function name body => do
      adjust fun settings =>
        { settings with
          status := 0
          functions := (name, body) :: settings.functions.filter (·.1 ≠ name) }

def alone : Nat → Mode → List Redirection → Command → Script Unit
  | 0, _, _, _ => throw .exhausted
  | fuel + 1, mode, redirections, body => do
      if !redirections.isEmpty then
        if !(← openAll fuel (← targetsOf fuel redirections)) then throw (.exit 2)
      execute fuel mode body

def pipe : Nat → Mode → Nat → Nat → Option Octets → List Command → Script Bool
  | 0, _, _, _, _, _ => throw .exhausted
  | _ + 1, _, _, _, _, [] => return false
  | fuel + 1, mode, start, finish, input, first :: rest => do
      modify fun machine => { machine with clock := start }
      let sink ← if rest.isEmpty then pure none else do pure (some (← addBuffer))
      let source ← match input with
        | some text => do pure (some (← addChannel (.text text)))
        | none => pure none
      let ending ← inProcess (runTrap fuel) do
        if let some channel := source then setStream 0 (some channel)
        if let some (_, channel) := sink then setStream 1 (some channel)
        execute fuel mode first
      if let some (_, channel) := sink then waitForWriters channel
      let finish := max finish (← get).clock
      modify fun machine => { machine with clock := finish }
      match sink with
      | none =>
          if ending = .overdue then return true
          takeOver ending
          return false
      | some (index, _) =>
          if let .killed signal := ending then writeErr (Signal.report signal)
          let written ← takeBuffer index
          let isOverdue ← pipe fuel mode start finish (some written) rest
          return isOverdue || ending = .overdue

def setAll : Nat → Order → List (Octets × Word) → Script (List Octets)
  | 0, _, _ => throw .exhausted
  | fuel + 1, order, settings =>
      settings.mapM fun (name, word) => do
        let value ← valueOf fuel word
        assignFor order name value
        return name ++ '=' :: value

def simple : Nat → Mode → List (Octets × Word) → List Word → List Redirection → Script Unit
  | 0, _, _, _, _ => throw .exhausted
  | fuel + 1, mode, settings, words, redirections => do
      let complaints ← channelOf 2
      let fields ← fieldsOf fuel [] words
      let order := Order.of (← Script.settings) fields
      let targets ← targetsOf fuel redirections
      let streams := (← Script.settings).streams
      if !(← openAll fuel targets) then
        adjust fun settings => { settings with streams }
        setStatus 2
        if order.isSpecial then throw .failed
      else
        let body : Script Unit := do
          let shown ← setAll fuel order settings
          trace fuel complaints (shown ++ fields)
          carryOut fuel mode order
        let body := if order.keepsSettings || settings.isEmpty then body else inScope body
        let result ← settle body
        if !order.keepsStreams then adjust fun settings => { settings with streams }
        resume result

def trace : Nat → Option Nat → List Octets → Script Unit
  | 0, _, _ => throw .exhausted
  | fuel + 1, channel, words => do
      let settings ← settings
      if !settings.has 'x' then return
      match channel with
      | none => return
      | some channel =>
          let mark := (settings.value? "PS4").getD []
          adjust fun settings => { settings with flags := settings.flags.filter (· ≠ 'x') }
          let front ← match Reading.textWord mark with
            | .ok word => plain fuel word
            | .error _ => pure mark
          adjust fun after => { after with flags := settings.flags }
          put channel (front ++ (words.intersperse [' ']).flatten ++ ['\n'])

def carryOut : Nat → Mode → Order → Script Unit
  | 0, _, _ => throw .exhausted
  | fuel + 1, mode, order => do
      match order with
      | .nothing => do setStatus (← settings).yielded
      | .function body arguments => inCall arguments (execute fuel mode.part body)
      | .builtin isSpecial name arguments =>
          let result ← settle (under name (builtin fuel mode name arguments))
          match result with
          | .error .failed => if isSpecial then throw .failed
          | result => resume result
      | .program isCommonPath name arguments =>
          let machine ← get
          let settings := machine.settings
          let path := if isCommonPath then Program.commonPath else Meaning.pathOf settings
          let directories := Program.directories path
          if !name.contains '/' then
            match Program.searchFile machine.disk name .noEntry directories with
            | .ok file => track name file
            | .error fault =>
                refuse name fault
                setStatus 127
                return
          let isOwn := mode.isLast && settings.traps.all (·.2.isEmpty)
          if isOwn then
            launch fuel isCommonPath name arguments
            throw (.exit (← status))
          else apart (runTrap fuel) (launch fuel isCommonPath name arguments)

def builtin : Nat → Mode → Octets → List Octets → Script Unit
  | 0, _, _, _ => throw .exhausted
  | fuel + 1, mode, name, arguments => do
      match String.ofList name with
      | "eval" =>
          let text := (arguments.intersperse [' ']).flatten
          runLines fuel mode.part false false { rest := text }
      | "exec" =>
          match arguments with
          | [] => setStatus 0
          | name :: arguments =>
              launch fuel false name arguments
              throw (.exit (← status))
      | "." =>
          match ← operands arguments with
          | [] => setStatus 0
          | written :: _ =>
              let path ← sourcePath written
              let text ← scriptFile path
              let result ← settle (under path (runLines fuel {} true false { rest := text }))
              match result with
              | .error .back => return
              | result => resume result
      | other =>
          match builtins.lookup other with
          | some run => run arguments
          | none => setStatus 127

def runTrap : Nat → Octets → Script Unit
  | 0, _ => throw .exhausted
  | fuel + 1, text => runLines fuel {} false false { rest := text }

def runLines : Nat → Mode → Bool → Bool → Cursor → Script Unit
  | 0, _, _, _, _ => throw .exhausted
  | fuel + 1, mode, isFile, hasRun, cursor => do
      let settings ← settings
      let cursor := { cursor with aliases := settings.aliases, documents := settings.documents }
      match Reading.nextLine cursor with
      | .error (line, fault) =>
          adjust fun settings => { settings with line }
          fail (say ("Syntax error: " ++ fault.message))
      | .ok (found, _, after) =>
          if isFile && settings.has 'v' then
            writeErr (cursor.rest.take (cursor.rest.length - after.rest.length))
          match found with
          | none => if !hasRun then setStatus 0
          | some command =>
              adjust fun settings => { settings with documents := after.documents }
              execute fuel mode command
              runLines fuel mode isFile (hasRun || !command.isNothing) after

def rounds : Nat → Mode → Bool → Command → Command → Nat → Script Unit
  | 0, _, _, _, _, _ => throw .exhausted
  | fuel + 1, mode, untilSuccess, test, body, last => do
      match roundEnd (← settle (execute fuel .test test)) with
      | some final =>
          setStatus last
          resume final
      | none =>
          if ((← status) = 0) = untilSuccess then setStatus last
          else
            match roundEnd (← settle (execute fuel mode body)) with
            | some final => resume final
            | none => rounds fuel mode untilSuccess test body (← status)

def roundsFor : Nat → Mode → Octets → Command → List Octets → Script Unit
  | 0, _, _, _, _ => throw .exhausted
  | _ + 1, _, _, _, [] => return
  | fuel + 1, mode, name, body, value :: rest => do
      assign name value
      match roundEnd (← settle (execute fuel mode body)) with
      | some final => resume final
      | none => roundsFor fuel mode name body rest

def choose : Nat → Mode → Octets → List (List Word × Command) → Script Unit
  | 0, _, _, _ => throw .exhausted
  | _ + 1, _, _, [] => return
  | fuel + 1, mode, subject, (patterns, body) :: rest => do
      if ← matchesAny fuel subject patterns then
        if !body.isNothing then execute fuel mode body
      else choose fuel mode subject rest

def matchesAny : Nat → Octets → List Word → Script Bool
  | 0, _, _ => throw .exhausted
  | _ + 1, _, [] => return false
  | fuel + 1, subject, pattern :: rest => do
      let pattern := Tilde.expanded (← settings) false pattern
      let marked := Atom.marked (← atoms fuel false pattern)
      if Utility.Wildcard.isMatch (Utility.Wildcard.parse marked) subject then return true
      matchesAny fuel subject rest

def launch : Nat → Bool → Octets → List Octets → Script Unit
  | 0, _, _, _ => throw .exhausted
  | fuel + 1, isCommonPath, name, arguments => do
      let machine ← get
      let settings := machine.settings
      let path := if isCommonPath then Program.commonPath else Meaning.pathOf settings
      match Program.find machine.disk path name with
      | .ok (file, _) =>
          adjust fun settings => { settings with traps := ownTraps settings }
          runFile fuel settings.environment name file arguments
      | .error fault =>
          refuse name fault
          let absent := [.noEntry, .notDirectory, .nameTooLong, .tooManyLinks]
          throw (.exit (if absent.contains fault then 127 else 126))

def runFile : Nat → Becoming
  | 0, _, _, _, _ => throw .exhausted
  | fuel + 1, environment, called, path, arguments => do
      match Program.ofPath (← get).disk path with
      | .ok (.known name) => runKnown fuel name environment called arguments
      | .ok (.interpreted interpreter argument) =>
          let arguments := argument.toList ++ path :: arguments
          runFile fuel environment interpreter interpreter arguments
      | .ok .script => runShell fuel environment (say "/bin/sh") (path :: arguments)
      | .error _ => throw (.exit 127)

def runKnown : Nat → String → Environment → Octets → List Octets → Script Unit
  | 0, _, _, _, _ => throw .exhausted
  | fuel + 1, name, environment, called, arguments => do
      match name with
      | "sh" | "dash" => runShell fuel environment called arguments
      | "env" => Actor.env (runFile fuel) environment arguments
      | "nice" => Actor.nice (runFile fuel) environment arguments
      | "nohup" => Actor.nohup (runFile fuel) environment arguments
      | "setsid" => Actor.setsid (runFile fuel) environment arguments
      | "sleep" => Actor.sleep arguments
      | "timeout" => Actor.timeout (runFile fuel) environment arguments
      | "xargs" => Gather.xargs (runFile fuel) environment arguments
      | "yes" => Actor.yes arguments
      | other =>
          match Utility.catalogue.lookup other with
          | some task => work (Text.Octets.toText called) environment (task arguments)
          | none => setStatus 127

def runShell : Nat → Environment → Octets → List Octets → Script Unit
  | 0, _, _, _ => throw .exhausted
  | fuel + 1, environment, called, arguments => do
      modify fun machine =>
        let directory := Directory.ofPlace machine.disk.here
        { machine with
          settings := Settings.start machine.settings directory environment called }
      let result ← settle do
        let reading ← Flag.read true (arguments.length + 1) arguments
        let readsInput := (← settings).has 's'
        let run (isFile : Bool) (text : Octets) : Script Unit :=
          runLines fuel {} isFile false { rest := text }
        match reading.rest with
        | [] =>
            if reading.hasCommand then fail (say "-c requires an argument")
            Flag.turn 's' true
            let text ← input
            leaveInput []
            run true text
        | first :: rest =>
            let setTitle (title : Octets) (arguments : List Octets) : Script Unit :=
              adjust fun settings => { settings with title, arguments }
            if reading.hasCommand then
              setTitle (rest.head?.getD called) rest.tail
              run false first
            else if readsInput then
              setTitle called reading.rest
              let text ← input
              leaveInput []
              run true text
            else
              let text ← scriptFile first
              setTitle first rest
              run true text
      let ending ← conclude (runTrap fuel) result
      throw ending

end

end Script

end GoldenSuite.Shell
