import GoldenSuite.Utility.Files

set_option autoImplicit false

namespace GoldenSuite.Utility

open Text (Octets)

namespace Listing

open Files

def form : Form :=
  { Form.of "aAbBcCdDfFgGhHiI:klLmnNopqQrRsStT:uUvw:xXZ1" [("all", "a"), ("almost-all", "A"),
      ("classify::", "F"), ("directory", "d"), ("file-type", "p"), ("recursive", "R"),
      ("reverse", "r"), ("size", "s"), ("color::", "color"), ("format:", "format"), ("sort:", "sort"),
      ("inode", "i"), ("human-readable", "h"), ("group-directories-first", "grouped"),
      ("indicator-style:", "style"), ("ignore:", "I"), ("full-time", "full"), ("quote-name", "Q")]
    with status := 2 }

def mark (choice : Choice) (node : Disk.Node) : Octets :=
  let all := choice.has "F"
  match node with
  | .directory => if all || choice.has "p" then ['/'] else []
  | .link _ => if all then ['@'] else []
  | .file _ mode => if all && mode &&& 0o111 ≠ 0 then ['*'] else []

def sizeOf : Disk.Node → Nat
  | .file data _ => data.size
  | .link target => target.text.utf8ByteSize
  | .directory => 4096

def isHidden (name : Octets) : Bool := name.head? = some '.'

def sorted (choice : Choice) (entries : List (Octets × Disk.Node)) : List (Octets × Disk.Node) :=
  let found :=
    if choice.has "S" then
      entries.mergeSort fun left right => decide (sizeOf right.2 ≤ sizeOf left.2)
    else entries
  if choice.has "r" then found.reverse else found

def lines (choice : Choice) (entries : List (Octets × Disk.Node)) : Octets :=
  let names := entries.map fun (name, node) => name ++ mark choice node
  if choice.has "m" then
    if names.isEmpty then [] else (names.intersperse (say ", ")).flatten ++ ['\n']
  else unlines names

def entriesOf (choice : Choice) (disk : Disk) (place : Place) : List (Octets × Disk.Node) :=
  let children := (disk.children place).map fun (name, node) => (Text.Octets.ofText name, node)
  let dots := if choice.has "a" && !choice.has "A" then
      [(['.'], Disk.Node.directory), (['.', '.'], Disk.Node.directory)] else []
  let shown := if choice.has "a" || choice.has "A" || choice.has "f" then children
    else children.filter fun entry => !isHidden entry.1
  sorted choice (dots ++ shown)

def list (choice : Choice) : Nat → Bool → Bool → Octets → Place → Task Unit
  | 0, _, _, _, _ => return
  | fuel + 1, isFirst, isNamed, name, place => do
      if isNamed then
        Task.write ((if isFirst then [] else ['\n']) ++ name ++ [':', '\n'])
      let disk := (← get).disk
      let entries := entriesOf choice disk place
      Task.write (lines choice entries)
      if choice.has "R" then
        entries.forM fun (child, node) => do
          match node with
          | .directory =>
              if child ≠ ['.'] && child ≠ ['.', '.'] then
                list choice fuel false true (inside name child)
                  (place ++ [Text.Octets.toText child])
          | _ => return

def task (arguments : List Octets) : Task Unit := do
  let choice ← Task.choose form arguments
  let names := if choice.operands.isEmpty then [['.']] else choice.operands
  let order (left right : Octets) : Bool := !(right.map Char.toNat).lex (left.map Char.toNat)
  let found ← (names.mergeSort order).filterMapM fun name => do
    let disk := (← get).disk
    match disk.lookup (pathOf name) with
    | .ok (place, node) => return some (name, place, node)
    | .error fault =>
        match ← entry name with
        | .ok (place, node) => return some (name, place, node)
        | .error _ =>
            Task.complain (say "cannot access " ++ quoted name ++ say ": " ++ reason fault) 2
            return none
  let isDir : Octets × Place × Disk.Node → Bool
    | (_, _, .directory) => !choice.has "d"
    | _ => false
  let files := found.filter (!isDir ·)
  let directories := found.filter isDir
  Task.write (lines choice (sorted choice (files.map fun (name, _, node) => (name, node))))
  let fuel := (← get).disk.entries.length + 2
  let isNamed := 1 < names.length || choice.has "R"
  let ordered := if choice.has "r" then directories.reverse else directories
  let _ ← ordered.foldlM (fun isFirst (name, place, _) => do
    list choice fuel isFirst isNamed name place
    return false) files.isEmpty
  return

end Listing

namespace Status

def shown (name : Octets) (node : Disk.Node) : Octets → Octets
  | '%' :: c :: rest =>
      (match c, node with
        | 'n', _ => name
        | 's', node => decimal (Listing.sizeOf node)
        | 'a', .file _ mode => Nat.toDigits 8 mode
        | 'a', .directory => say "755"
        | 'a', .link _ => say "777"
        | 'F', .file data _ => say (if data.isEmpty then "regular empty file" else "regular file")
        | 'F', .directory => say "directory"
        | 'F', .link _ => say "symbolic link"
        | 'U', _ | 'G', _ => say "root"
        | 'u', _ | 'g', _ => ['0']
        | '%', _ => ['%']
        | _, _ => ['?']) ++ shown name node rest
  | c :: rest => c :: shown name node rest
  | [] => []

def task (arguments : List Octets) : Task Unit := do
  let form := Form.of "c:fLt" [("format:", "c"), ("printf:", "printf"), ("dereference", "L"),
    ("file-system", "f"), ("terse", "t")]
  let choice ← Task.choose form arguments
  if choice.operands.isEmpty then Task.misused (say "missing operand")
  choice.operands.forM fun name => do
    let found ← if choice.has "L" then pure ((← get).disk.lookup (pathOf name)) else Files.entry name
    match found with
    | .error fault => Task.complain (say "cannot statx " ++ quoted name ++ say ": " ++ reason fault)
    | .ok (_, node) =>
        match choice.last? "c", choice.last? "printf" with
        | some format, _ => Task.writeLine (shown name node format)
        | none, some format =>
            Task.write (unescaped (shown name node format))
        | none, none => Task.writeLine name
where
  unescaped : Octets → Octets
    | '\\' :: 'n' :: rest => '\n' :: unescaped rest
    | '\\' :: 't' :: rest => '\t' :: unescaped rest
    | c :: rest => c :: unescaped rest
    | [] => []

end Status

end GoldenSuite.Utility
