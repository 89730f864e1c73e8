import GoldenSuite.Utility.Options

set_option autoImplicit false

namespace GoldenSuite.Utility

open Text (Octets)

namespace Files

def node? (name : Octets) : Task (Option Disk.Node) := do
  return ((← get).disk.lookup (pathOf name)).toOption.map (·.2)

def isDirectory (name : Octets) : Task Bool := do
  return (← node? name) matches some .directory

def entry (name : Octets) : Task (Except FileFault (Place × Disk.Node)) := do
  let disk := (← get).disk
  return do
    let (directory, step) ← disk.slot (pathOf name)
    if Disk.isStep step then return (directory, .directory)
    let place := directory ++ [step]
    match disk.node? place with
    | none => throw .noEntry
    | some .directory => return (place, .directory)
    | some (.link target) =>
        if (pathOf name).endsInSlash then disk.lookup (pathOf name)
        else return (place, .link target)
    | some node =>
        if (pathOf name).endsInSlash then throw .notDirectory
        return (place, node)

def withoutSlashes (name : Octets) : Octets :=
  match (name.reverse.dropWhile (· = '/')).reverse with
  | [] => if name.isEmpty then [] else ['/']
  | kept => kept

def baseName (name : Octets) : Octets :=
  let kept := withoutSlashes name
  if kept = ['/'] then kept else (kept.reverse.takeWhile (· ≠ '/')).reverse

def inside (directory name : Octets) : Octets :=
  if directory.getLast? = some '/' then directory ++ name else directory ++ '/' :: name

def agrees (question : Octets) : Task Bool := do
  Task.warn (say (← get).name ++ say ": " ++ question)
  let input := (← get).input
  let line := input.takeWhile (· ≠ '\n')
  modify fun bench => { bench with input := (input.drop line.length).tail }
  return line.head?.any fun c => c = 'y' || c = 'Y'

def pairs (choice : Choice) : Task (List (Octets × Octets)) := do
  let operands := choice.operands
  if operands.isEmpty then Task.misused (say "missing file operand")
  match choice.last? "t" with
  | some directory =>
      if !(← isDirectory directory) then
        let text := match (← get).disk.lookup (pathOf directory) with
          | .error fault => reason fault
          | .ok _ => say "Not a directory"
        Task.give (say "target directory " ++ quoted directory ++ say ": " ++ text)
      return operands.map fun source => (source, inside directory (baseName source))
  | none =>
      let target := operands.getLast?.getD []
      match operands with
      | [only] => Task.misused (say "missing destination file operand after " ++ quoted only)
      | [source, _] =>
          if !choice.has "T" && (← isDirectory target) then
            return [(source, inside target (baseName source))]
          return [(source, target)]
      | _ =>
          if choice.has "T" then
            Task.misused (say "extra operand " ++ quoted ((operands[2]?).getD []))
          if !(← isDirectory target) then
            let text := match (← get).disk.lookup (pathOf target) with
              | .error fault => reason fault
              | .ok _ => say "Not a directory"
            Task.give (say "target " ++ quoted target ++ say ": " ++ text)
          return operands.dropLast.map fun source => (source, inside target (baseName source))

def put (place : Place) (node : Disk.Node) : Task Unit :=
  modify fun bench => { bench with disk := bench.disk.set place node }

end Files

namespace Copy

open Files

def form : Form :=
  .of "abdfHilLnprst:uvxPRS:TZ" [("archive", "a"), ("attributes-only", "attributes"),
    ("backup::", "b"), ("copy-contents", "contents"), ("debug", "debug"), ("dereference", "L"),
    ("force", "f"), ("interactive", "i"), ("link", "l"), ("no-clobber", "n"),
    ("no-dereference", "P"), ("no-preserve:", "unpreserved"), ("no-target-directory", "T"),
    ("one-file-system", "x"), ("parents", "parents"), ("preserve::", "p"), ("recursive", "R"),
    ("reflink::", "reflink"), ("remove-destination", "removes"), ("sparse:", "sparse"),
    ("strip-trailing-slashes", "strip"), ("suffix:", "S"), ("symbolic-link", "s"),
    ("target-directory:", "t"), ("update::", "u"), ("verbose", "v")]

def isRecursive (choice : Choice) : Bool := ["r", "R", "a"].any choice.has

def keepsLinks (choice : Choice) : Bool :=
  !choice.has "L" && (isRecursive choice || choice.has "d" || choice.has "P")

def report (choice : Choice) (source target : Octets) : Task Unit :=
  if choice.has "v" then Task.writeLine (quoted source ++ say " -> " ++ quoted target) else return

def copyFile (choice : Choice) (source target : Octets) (data : ByteArray) (mode : Nat) :
    Task Unit := do
  let disk := (← get).disk
  match disk.lookup (pathOf target) with
  | .ok (place, .file _ old) =>
      if choice.has "n" then return
      if choice.has "i" && !(← agrees (say "overwrite " ++ quoted target ++ say "? ")) then
        Task.atLeast 1
        return
      report choice source target
      if place ≠ Disk.nullDevice then put place (.file data old)
  | _ =>
      let failed (fault : FileFault) : Task Unit :=
        Task.complain (say "cannot create regular file " ++ quoted target ++ say ": " ++ reason fault)
      if (pathOf target).endsInSlash then failed .notDirectory
      else match disk.locate (pathOf target) with
        | .error fault => failed fault
        | .ok place =>
            report choice source target
            put place (.file data mode)

def copy (choice : Choice) : Nat → Octets → Octets → Task Unit
  | 0, _, _ => return
  | fuel + 1, source, target => do
      let disk := (← get).disk
      let found ← if keepsLinks choice then entry source
        else pure (disk.lookup (pathOf source))
      match found with
      | .error fault =>
          Task.complain (say "cannot stat " ++ quoted source ++ say ": " ++ reason fault)
      | .ok (place, node) =>
          let goal := (disk.lookup (pathOf target)).toOption
          match node, goal with
          | .directory, _ =>
              if !isRecursive choice then
                Task.complain (say "-r not specified; omitting directory " ++ quoted source)
                return
              if goal.any fun found => !(found.2 matches .directory) then
                Task.complain (say "cannot overwrite non-directory " ++ quoted target
                  ++ say " with directory " ++ quoted source)
                return
              let goalPlace := (goal.map (·.1)).getD ((disk.locate (pathOf target)).toOption.getD [])
              if place.isPrefixOf goalPlace then
                Task.complain (say "cannot copy a directory, " ++ quoted source
                  ++ say ", into itself, " ++ quoted target)
                return
              if goal.isNone then
                match ← Task.changeDisk fun disk => disk.makeDir (pathOf (withoutSlashes target)) with
                | .ok () => report choice source target
                | .error fault =>
                    Task.complain
                      (say "cannot create directory " ++ quoted target ++ say ": " ++ reason fault)
                    return
              (disk.children place).forM fun (name, _) =>
                let name := Text.Octets.ofText name
                copy choice fuel (inside source name) (inside target name)
          | _, some (goalPlace, .directory) =>
              if place = goalPlace then return
              Task.complain
                (say "cannot overwrite directory " ++ quoted target ++ say " with non-directory")
          | .link aim, _ =>
              match ← Task.changeDisk fun disk => disk.makeLink (pathOf target) aim with
              | .ok () => report choice source target
              | .error fault =>
                  Task.complain (say "cannot create symbolic link " ++ quoted target ++ say ": "
                    ++ reason fault)
          | .file data mode, _ =>
              if goal.any (·.1 = place) then
                Task.complain
                  (quoted source ++ say " and " ++ quoted target ++ say " are the same file")
                return
              if choice.has "s" then
                match ← Task.changeDisk fun disk => disk.makeLink (pathOf target) (pathOf source) with
                | .ok () => return
                | .error fault =>
                    Task.complain (say "cannot create symbolic link " ++ quoted target ++ say ": "
                      ++ reason fault)
                    return
              copyFile choice source target data mode

def task (arguments : List Octets) : Task Unit := do
  let choice ← Task.choose form arguments
  let fuel := (← get).disk.entries.length + 2
  (← pairs choice).forM fun (source, target) => copy choice fuel source target

end Copy

namespace Move

open Files

def form : Form :=
  .of "bfint:uvS:TZ" [("backup::", "b"), ("debug", "debug"), ("force", "f"), ("interactive", "i"),
    ("no-clobber", "n"), ("no-copy", "copyless"), ("no-target-directory", "T"),
    ("strip-trailing-slashes", "strip"), ("suffix:", "S"), ("target-directory:", "t"),
    ("update::", "u"), ("verbose", "v")]

def move (choice : Choice) (source target : Octets) : Task Unit := do
  match ← entry source, ← entry target with
  | .error fault, _ =>
      Task.complain (say "cannot stat " ++ quoted source ++ say ": " ++ reason fault)
  | .ok (place, node), found =>
      let cannotMove (fault : FileFault) : Task Unit :=
        Task.complain (say "cannot move " ++ quoted source ++ say " to " ++ quoted target ++ say ": "
          ++ reason fault)
      let goal := found.toOption
      let isDir : Bool := node matches .directory
      if goal.any (·.1 = place) then
        Task.complain (quoted source ++ say " and " ++ quoted target ++ say " are the same file")
        return
      match goal with
      | some (_, .directory) =>
          if !isDir then
            Task.complain
              (say "cannot overwrite directory " ++ quoted target ++ say " with non-directory")
            return
      | some _ =>
          if isDir then
            Task.complain (say "cannot overwrite non-directory " ++ quoted target
              ++ say " with directory " ++ quoted source)
            return
          if choice.has "n" then return
          if choice.has "i" && !(← agrees (say "overwrite " ++ quoted target ++ say "? ")) then
            Task.atLeast 1
            return
      | none => pure ()
      let bare := if isDir then withoutSlashes target else target
      match ← Task.changeDisk fun disk => disk.move (pathOf (withoutSlashes source)) (pathOf bare) with
      | .ok () =>
          if choice.has "v" then
            Task.writeLine (say "renamed " ++ quoted source ++ say " -> " ++ quoted target)
      | .error .invalidArgument =>
          Task.complain (say "cannot move " ++ quoted source ++ say " to a subdirectory of itself, "
            ++ quoted target)
      | .error fault => cannotMove fault

def task (arguments : List Octets) : Task Unit := do
  let choice ← Task.choose form arguments
  (← pairs choice).forM fun (source, target) => move choice source target

end Move

namespace Remove

open Files

def form : Form :=
  .of "dfiIrRv" [("dir", "d"), ("force", "f"), ("interactive::", "i"), ("no-preserve-root", "root"),
    ("one-file-system", "system"), ("preserve-root::", "kept"), ("recursive", "r"), ("verbose", "v")]

def isForced (choice : Choice) : Bool := choice.lastOf? ["f", "i", "I"] = some "f"

def asks (choice : Choice) : Bool := choice.lastOf? ["f", "i", "I"] = some "i"

def kindOf : Disk.Node → Octets
  | .directory => say "directory"
  | .link _ => say "symbolic link"
  | .file data _ => say (if data.isEmpty then "regular empty file" else "regular file")

def remove (choice : Choice) : Nat → Octets → Task Unit
  | 0, _ => return
  | fuel + 1, name => do
      let cannot (fault : FileFault) : Task Unit :=
        Task.complain (say "cannot remove " ++ quoted name ++ say ": " ++ reason fault)
      match ← entry name with
      | .error fault =>
          if !(isForced choice && (fault = .noEntry || fault = .notDirectory)) then cannot fault
      | .ok (place, .directory) =>
          let isRecursive := choice.has "r" || choice.has "R"
          if !isRecursive && !choice.has "d" then return ← cannot .isDirectory
          if place.isEmpty then
            Task.complain (say "it is dangerous to operate recursively on '/'")
            Task.complain (say "use --no-preserve-root to override this failsafe")
            return
          if ['.'] = baseName name || ['.', '.'] = baseName name then
            Task.complain (say "refusing to remove '.' or '..' directory: skipping " ++ quoted name)
            return
          if isRecursive then
            ((← get).disk.children place).forM fun (child, _) =>
              remove choice fuel (inside name (Text.Octets.ofText child))
          if asks choice then
            if !(← agrees (say "remove directory " ++ quoted name ++ say "? ")) then return
          match ← Task.changeDisk fun disk => disk.removeDir (pathOf name) with
          | .ok () =>
              if choice.has "v" then Task.writeLine (say "removed directory " ++ quoted name)
          | .error fault => cannot fault
      | .ok (_, node) =>
          if asks choice then
            if !(← agrees (say "remove " ++ kindOf node ++ ' ' :: quoted name ++ say "? ")) then return
          match ← Task.changeDisk fun disk => disk.unlink (pathOf name) with
          | .ok () => if choice.has "v" then Task.writeLine (say "removed " ++ quoted name)
          | .error fault => cannot fault

def task (arguments : List Octets) : Task Unit := do
  let choice ← Task.choose form arguments
  if choice.operands.isEmpty && !isForced choice then Task.misused (say "missing operand")
  let fuel := (← get).disk.entries.length + 2
  choice.operands.forM (remove choice fuel)

end Remove

namespace Directories

open Files

def wayTo (name : Octets) : List Octets :=
  let steps := (withoutSlashes name).splitOnP (· = '/')
  ((List.range steps.length).map fun count =>
    ((steps.take (count + 1)).intersperse ['/']).flatten).filter (!·.isEmpty)

def makeOne (choice : Choice) (isOnWay : Bool) (name : Octets) : Task Bool := do
  if isOnWay && (← isDirectory name) then return true
  match ← Task.changeDisk fun disk => disk.makeDir (pathOf (withoutSlashes name)) with
  | .ok () =>
      if choice.has "v" then
        Task.writeLine (say "mkdir: created directory " ++ quoted name)
      return true
  | .error fault =>
      Task.complain (say "cannot create directory " ++ quoted name ++ say ": " ++ reason fault)
      return false

def makeAll (choice : Choice) : List Octets → Task Unit
  | [] => return
  | name :: rest => do if ← makeOne choice true name then makeAll choice rest

def make (arguments : List Octets) : Task Unit := do
  let form := Form.of "m:pvZ" [("context::", "Z"), ("mode:", "m"), ("parents", "p"), ("verbose", "v")]
  let choice ← Task.choose form arguments
  if choice.operands.isEmpty then Task.misused (say "missing operand")
  choice.operands.forM fun name =>
    if choice.has "p" && !name.isEmpty then makeAll choice (wayTo name)
    else do let _ ← makeOne choice false name

def remove (arguments : List Octets) : Task Unit := do
  let form := Form.of "pv" [("ignore-fail-on-non-empty", "lenient"), ("parents", "p"), ("verbose", "v")]
  let choice ← Task.choose form arguments
  if choice.operands.isEmpty then Task.misused (say "missing operand")
  choice.operands.forM fun name => do
    (if choice.has "p" then (wayTo name).reverse else [name]).forM fun name => do
      if choice.has "v" then Task.writeLine (say "rmdir: removing directory, " ++ quoted name)
      match ← Task.changeDisk fun disk => disk.removeDir (pathOf name) with
      | .ok () => return
      | .error fault =>
          if choice.has "lenient" && fault = .notEmpty then return
          Task.complain (say "failed to remove " ++ quoted name ++ say ": " ++ reason fault)

end Directories

def touch (arguments : List Octets) : Task Unit := do
  let form := Form.of "acd:fhmr:t:" [("date:", "d"), ("no-create", "c"), ("no-dereference", "h"),
    ("reference:", "r"), ("time:", "time")]
  let choice ← Task.choose form arguments
  if choice.operands.isEmpty then Task.misused (say "missing file operand")
  choice.operands.forM fun name => do
    let bench ← get
    match bench.disk.lookup (pathOf name) with
    | .ok _ => return
    | .error fault =>
        if choice.has "c" && fault = .noEntry then return
        let isDirectoryName := (pathOf name).endsInSlash
        match bench.disk.locate (pathOf name) with
        | .ok place =>
            if isDirectoryName then
              Task.complain (say "setting times of " ++ quoted name ++ say ": " ++ reason fault)
            else Files.put place (.file .empty)
        | .error fault =>
            let verb := if isDirectoryName then "setting times of " else "cannot touch "
            Task.complain (say verb ++ quoted name ++ say ": " ++ reason fault)

namespace Links

open Files

def form : Form :=
  .of "bdfFiLnPrsS:t:Tv" [("backup::", "b"), ("directory", "d"), ("force", "f"), ("interactive", "i"),
    ("logical", "L"), ("no-dereference", "n"), ("physical", "P"), ("relative", "r"),
    ("symbolic", "s"), ("suffix:", "S"), ("target-directory:", "t"), ("no-target-directory", "T"),
    ("verbose", "v")]

def link (choice : Choice) (target name : Octets) : Task Unit := do
  if choice.has "f" then
    let _ ← Task.changeDisk fun disk => disk.unlink (pathOf name)
  let made ← if choice.has "s" then
      Task.changeDisk fun disk => disk.makeLink (pathOf name) (pathOf target)
    else do
      match (← get).disk.lookup (pathOf target) with
      | .error fault =>
          Task.complain (say "failed to access " ++ quoted target ++ say ": " ++ reason fault)
          return
      | .ok (_, .directory) =>
          Task.complain (target ++ say ": hard link not allowed for directory")
          return
      | .ok (_, node) =>
          Task.changeDisk fun disk => do
            let made ← disk.makeLink (pathOf name) (pathOf target)
            return made.set (← disk.locate (pathOf name)) node
  let arrow := if choice.has "s" then say " -> " else say " => "
  match made with
  | .ok () => if choice.has "v" then Task.writeLine (quoted name ++ arrow ++ quoted target)
  | .error fault =>
      let kind := if choice.has "s" then "symbolic" else "hard"
      let tail := if choice.has "s" || fault = .alreadyExists then [] else say " => " ++ quoted target
      Task.complain (say s!"failed to create {kind} link " ++ quoted name ++ tail ++ say ": "
        ++ reason fault)

def task (arguments : List Octets) : Task Unit := do
  let choice ← Task.choose form arguments
  match choice.operands with
  | [] => Task.misused (say "missing file operand")
  | [only] => link choice only (baseName only)
  | _ => (← pairs choice).forM fun (target, name) => link choice target name

def read (arguments : List Octets) : Task Unit := do
  let form := Form.of "efmnqsvz" [("canonicalize", "f"), ("canonicalize-existing", "e"),
    ("canonicalize-missing", "m"), ("no-newline", "n"), ("quiet", "q"), ("silent", "s"),
    ("verbose", "v"), ("zero", "z")]
  let choice ← Task.choose form arguments
  if choice.operands.isEmpty then Task.misused (say "missing operand")
  let ending := if choice.has "n" then [] else ['\n']
  choice.operands.forM fun name => do
    let disk := (← get).disk
    if choice.has "f" || choice.has "e" then
      match if choice.has "e" then (disk.lookup (pathOf name)).map (·.1)
        else disk.locate (pathOf name) with
      | .ok place => Task.write (say ("/" ++ String.intercalate "/" place) ++ ending)
      | .error _ => Task.atLeast 1
    else match ← entry name with
      | .ok (_, .link target) => Task.write (say target.text ++ ending)
      | _ => Task.atLeast 1

def realPath (arguments : List Octets) : Task Unit := do
  let form := Form.of "emLPqsz" [("canonicalize-existing", "e"), ("quiet", "q")]
  let choice ← Task.choose form arguments
  if choice.operands.isEmpty then Task.misused (say "missing operand")
  choice.operands.forM fun name => do
    match (← get).disk.locate (pathOf name) with
    | .ok place => Task.writeLine (say ("/" ++ String.intercalate "/" place))
    | .error fault => Task.complain (quotedIfNeeded name ++ say ": " ++ reason fault)

end Links

namespace Mode

open Files

def clause? (isDir : Bool) (old : Nat) (written : Octets) : Option Nat :=
  let who := written.takeWhile "ugoa".toList.contains
  let groups (bits : Nat) : Nat :=
    let on (letters : List Char) (shift : Nat) : Nat :=
      if who.isEmpty || who.any letters.contains then bits <<< shift else 0
    on ['u', 'a'] 6 + on ['g', 'a'] 3 + on ['o', 'a'] 0
  let mask := if who.isEmpty then 0o755 else 0o777
  let apply : Nat → Octets → Option Nat := fun mode rest =>
    match rest with
    | sign :: letters =>
        if !letters.all "rwxX".toList.contains then none
        else
          let runs := letters.contains 'x' || (letters.contains 'X' && (isDir || mode &&& 0o111 ≠ 0))
          let bits := (if letters.contains 'r' then 4 else 0) + (if letters.contains 'w' then 2 else 0)
            + (if runs then 1 else 0)
          let wanted := groups bits &&& (if who.isEmpty && bits &&& 2 ≠ 0 then mask else 0o777)
          match sign with
          | '+' => some (mode ||| wanted)
          | '-' => some (mode &&& (0o777 - wanted))
          | '=' => some ((mode &&& (0o777 - groups 7)) ||| wanted)
          | _ => none
    | [] => none
  apply old (written.drop who.length)

def mode? (isDir : Bool) (old : Nat) (written : Octets) : Option Nat :=
  if written.isEmpty then none
  else if written.all fun c => '0' ≤ c && c ≤ '7' then
    some ((written.foldl (fun mode c => mode * 8 + (c.toNat - '0'.toNat)) 0) &&& 0o777)
  else (written.splitOnP (· = ',')).foldlM (clause? isDir) old

def isModeOption : Octets → Bool
  | '-' :: c :: _ => "rwxX".toList.contains c
  | _ => false

def change (arguments : List Octets) : Task Unit := do
  let form := Form.of "cfRv" [("changes", "c"), ("silent", "f"), ("quiet", "f"), ("recursive", "R"),
    ("verbose", "v"), ("reference:", "reference")]
  let modes := arguments.filter isModeOption
  let choice ← Task.choose form (arguments.filter (!isModeOption ·))
  match modes ++ choice.operands with
  | [] => Task.misused (say "missing operand")
  | [mode] => Task.misused (say "missing operand after " ++ cited mode)
  | mode :: names =>
      if (mode? false 0 mode).isNone then Task.misused (say "invalid mode: " ++ cited mode)
      names.forM fun name => do
        match (← get).disk.lookup (pathOf name) with
        | .ok (place, .file data old) =>
            put place (.file data ((mode? false old mode).getD old))
        | .ok _ => return
        | .error fault =>
            if choice.has "f" then Task.atLeast 1
            else Task.complain (say "cannot access " ++ quoted name ++ say ": " ++ reason fault)

end Mode

def truncate (arguments : List Octets) : Task Unit := do
  let form := Form.of "cor:s:" [("no-create", "c"), ("reference:", "r"), ("size:", "s")]
  let choice ← Task.choose form arguments
  match choice.last? "s" with
  | none => Task.misused (say "you must specify either '--size' or '--reference'")
  | some written =>
      match (String.ofList written).toNat? with
      | none => Task.give (say "Invalid number: " ++ cited written)
      | some size =>
          if choice.operands.isEmpty then Task.misused (say "missing file operand")
          choice.operands.forM fun name => do
            let old := ((← get).disk.bytes (pathOf name)).toOption.getD .empty
            let padding : ByteArray := ⟨(List.replicate (size - old.size) (0 : UInt8)).toArray⟩
            match ← Task.changeDisk fun disk =>
                disk.put (pathOf name) (old.extract 0 size ++ padding) with
            | .ok () => return
            | .error fault =>
                Task.complain
                  (say "cannot open " ++ quoted name ++ say " for writing: " ++ reason fault)

def makeTemporary (arguments : List Octets) : Task Unit := do
  let form := Form.of "dp:qtu" [("directory", "d"), ("quiet", "q"), ("dry-run", "u"), ("suffix:", "s"),
    ("tmpdir::", "p")]
  let choice ← Task.choose form arguments
  let template := choice.operands.head?.getD (say "/tmp/tmp.XXXXXXXXXX")
  let stem := (template.reverse.dropWhile (· = 'X')).reverse
  let width := template.length - stem.length
  if width < 3 then Task.give (say "too few X's in template " ++ quoted template)
  let disk := (← get).disk
  let named (number : Nat) : Octets :=
    let digits := decimal number
    stem ++ List.replicate (width - digits.length) 'a' ++ digits
  let names := (List.range (disk.entries.length + 1)).map named
  let name := (names.find? fun name => !(disk.lookup (pathOf name)).isOk).getD template
  let made ← if choice.has "d" then Task.changeDisk fun disk => disk.makeDir (pathOf name)
    else Task.changeDisk fun disk => disk.put (pathOf name) .empty
  match made with
  | .ok () => Task.writeLine name
  | .error fault =>
      let kind := if choice.has "d" then "directory" else "file"
      Task.give (say s!"failed to create {kind} via template " ++ quoted template ++ say ": "
        ++ reason fault)

end GoldenSuite.Utility
