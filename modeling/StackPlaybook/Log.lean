/-!
# StackPlaybook.Log

Log events: what happened, how important it is, and which part of the program
reports it.
-/

namespace StackPlaybook.Log

/-- The importance of an event, least first. -/
inductive Level where
  | trace
  | debug
  | info
  | warn
  | error
  deriving DecidableEq, Repr

def Level.rank : Level → Nat
  | .trace => 0
  | .debug => 1
  | .info => 2
  | .warn => 3
  | .error => 4

def Level.name : Level → String
  | .trace => "TRACE"
  | .debug => "DEBUG"
  | .info => "INFO"
  | .warn => "WARN"
  | .error => "ERROR"

def Level.all : List Level := [.trace, .debug, .info, .warn, .error]

/-- The value of a field of an event. -/
inductive Datum where
  | text (s : String)
  | number (n : Nat)
  deriving DecidableEq, Repr

/-- One log event.  The target names the part of the program that reports it. -/
structure Event where
  level : Level
  target : String
  message : String
  fields : List (String × Datum)
  deriving DecidableEq, Repr

end StackPlaybook.Log
