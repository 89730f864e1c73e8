set_option autoImplicit false

namespace GoldenSuite

inductive Verbosity where
  | normal
  | verbose
  | debug
  deriving DecidableEq, Repr, Inhabited

namespace Verbosity

def ofCount : Nat → Verbosity
  | 0 => .normal
  | 1 => .verbose
  | _ => .debug

def rank : Verbosity → Nat
  | .normal => 0
  | .verbose => 1
  | .debug => 2

end Verbosity

structure LogEntry where
  level : Verbosity
  text : String
  deriving DecidableEq, Repr

structure Log where
  level : Verbosity
  entries : List LogEntry := []
  deriving DecidableEq, Repr, Inhabited

namespace Log

def add (log : Log) (level : Verbosity) (text : String) : Log :=
  if level.rank ≤ log.level.rank then { log with entries := log.entries ++ [⟨level, text⟩] }
  else log

def messages (log : Log) : List String := log.entries.map LogEntry.text

def messagesAt (log : Log) (level : Verbosity) : List String :=
  (log.entries.filter (·.level = level)).map LogEntry.text

def shown (log : Log) : List String := log.messagesAt .normal

end Log

end GoldenSuite
