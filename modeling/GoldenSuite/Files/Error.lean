set_option autoImplicit false

namespace GoldenSuite

inductive FileFault where
  | missing (path : String)
  | readOnly (path : String)
  | noEntry
  | denied
  | alreadyExists
  | notDirectory
  | isDirectory
  | invalidArgument
  | busy
  | nameTooLong
  | notEmpty
  | tooManyLinks
  | notText
  | nulByte
  deriving DecidableEq, Repr

def FileFault.reason : FileFault → String × Option Nat
  | .missing path => (s!"file not found: {path}", none)
  | .readOnly path => (s!"read-only: {path}", none)
  | .noEntry => ("No such file or directory", some 2)
  | .denied => ("Permission denied", some 13)
  | .busy => ("Device or resource busy", some 16)
  | .alreadyExists => ("File exists", some 17)
  | .notDirectory => ("Not a directory", some 20)
  | .isDirectory => ("Is a directory", some 21)
  | .invalidArgument => ("Invalid argument", some 22)
  | .nameTooLong => ("File name too long", some 36)
  | .notEmpty => ("Directory not empty", some 39)
  | .tooManyLinks => ("Too many levels of symbolic links", some 40)
  | .notText => ("stream did not contain valid UTF-8", none)
  | .nulByte => ("file name contained an unexpected NUL byte", none)

def FileFault.message (fault : FileFault) : String :=
  match fault.reason with
  | (text, some number) => s!"{text} (os error {number})"
  | (text, none) => text

inductive FileError where
  | io (fault : FileFault)
  | path (message : String)
  | pattern (pattern : String) (message : String)
  deriving DecidableEq, Repr

namespace FileError

def message : FileError → String
  | .io fault => s!"IO error: {fault.message}"
  | .path text => s!"path error: {text}"
  | .pattern written text => s!"invalid fixture pattern {written}: {text}"

def isNotFound : FileError → Bool
  | .io (.missing _) | .io .noEntry => true
  | _ => false

end FileError

end GoldenSuite
