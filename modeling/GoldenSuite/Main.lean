import GoldenSuite.Console
import GoldenSuite.Disk.Tree
import GoldenSuite.Shell.Launch

set_option autoImplicit false

namespace GoldenSuite.Main

partial def load (place : Place) (entries : Array IO.FS.DirEntry) (disk : Disk) : IO Disk :=
  entries.foldlM (fun disk entry => do
    let place := place ++ [entry.fileName]
    match (← entry.path.symlinkMetadata).type with
    | .dir => load place (← entry.path.readDir) (disk.set place .directory)
    | .file => return disk.set place (.file (← IO.FS.readBinFile entry.path))
    | .symlink => return disk.set place (.link ⟨(← IO.FS.realPath entry.path).toString⟩)
    | .other => return disk) disk

def diskAt (here : Place) : Disk :=
  let disk := { Shell.Program.installed with here := [] }
  { disk.plant here .directory with here }

def store (before after : Disk) : IO Unit := do
  for (path, data) in after.files do
    let isKept := before.files.any fun (other, old) => other = path && old.data = data.data
    if !isKept then IO.FS.writeBinFile path.text data
  for (path, _) in before.files do
    if !(after.files.any fun (other, _) => other = path) then IO.FS.removeFile path.text

def now : IO Int :=
  IO.FS.withTempFile fun _ path => do return (← path.metadata).modified.sec

end GoldenSuite.Main

open GoldenSuite

def main (arguments : List String) : IO UInt32 := do
  let directory ← IO.currentDir
  let here := (GoldenSuite.Path.mk directory.toString).steps
  let disk ← Main.load here (← directory.readDir) (Main.diskAt here)
  let ending := Console.run arguments Shell.tools (← Main.now) disk
  Main.store disk ending.files
  (← IO.getStdout).putStr ending.out
  (← IO.getStderr).putStr ending.err
  return UInt32.ofNat ending.exitCode
