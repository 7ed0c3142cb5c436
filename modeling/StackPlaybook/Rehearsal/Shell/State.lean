import StackPlaybook.Rehearsal.Files

/-!
# StackPlaybook.Rehearsal.Shell.State

What a running script holds: the files and the folder it works in, its variables and
arguments, its input, and where its two outputs go.
-/

namespace StackPlaybook.Rehearsal.Shell

/-- Where an output goes. -/
inductive Sink where
  | out
  | err
  | file (names : List String)
  deriving DecidableEq, Repr

structure State where
  root : Node
  folder : List String
  vars : List (String × String)
  /-- The name of the script, and its arguments. -/
  script : String
  args : List String
  status : Nat
  input : Bytes
  /-- What was written to the outputs of the process. -/
  out : Bytes
  err : Bytes
  /-- Where the standard and the error output go. -/
  sink : Sink
  errSink : Sink

namespace State

def start (root : Node) (vars : List (String × String)) (script : String)
    (args : List String) : State :=
  { root, folder := [], vars, script, args, status := 0, input := [], out := [],
    err := [], sink := .out, errSink := .err }

/-- Writes to a sink. -/
def writeTo (s : State) (sink : Sink) (bytes : Bytes) : State :=
  match sink with
  | .out => { s with out := s.out ++ bytes }
  | .err => { s with err := s.err ++ bytes }
  | .file ["/dev/null"] => s
  | .file names =>
    let (old, executable) := match s.root.locate [] ("/".intercalate names) with
      | .ok ⟨_, some (.file content executable)⟩ => (content, executable)
      | _ => ([], false)
    { s with root := s.root.put names (.file (old ++ bytes) executable) }

/-- Writes bytes to the standard output. -/
def write (s : State) (bytes : Bytes) : State := s.writeTo s.sink bytes

def print (s : State) (text : String) : State := s.write (Bytes.ofString text)

/-- Writes a text to the error output. -/
def complain (s : State) (text : String) : State := s.writeTo s.errSink (Bytes.ofString text)

def withStatus (s : State) (n : Nat) : State := { s with status := n }

def setVariable (s : State) (name value : String) : State :=
  { s with vars := (name, value) :: s.vars.filter (·.1 != name) }

/-- The value of a variable or of a special parameter. -/
def parameter (s : State) (name : String) : String :=
  match name with
  | "?" => toString s.status
  | "#" => toString s.args.length
  | "$" => "1"
  | "@" | "*" => " ".intercalate s.args
  | "0" => s.script
  | _ =>
    match name.toNat? with
    | some n => s.args.getD (n - 1) ""
    | none => (s.vars.lookup name).getD ""

/-- The content of a file, or of the input for `-`. -/
def readFile (s : State) (path : String) : Except Fault Bytes := s.root.read s.folder path

end State

/-- How a command ends: going on, or leaving loops or the whole script. -/
inductive Flow where
  | next
  | exit
  | killed
  | leave (loops : Nat)
  | again (loops : Nat)
  deriving DecidableEq, Repr

end StackPlaybook.Rehearsal.Shell
