import StackPlaybook.Environment
import StackPlaybook.Rehearsal.Shell.Run

/-!
# StackPlaybook.Rehearsal.Stage

A host that exists only as a value: a tree of files in which programs are scripts, a
clock that moves only when it is waited on, and a calendar that stands still.
-/

namespace StackPlaybook.Rehearsal

structure Stage where
  files : Node
  /-- Nanoseconds, a whole number of milliseconds. -/
  clock : Nat
  today : Moment
  «variables» : List (String × String)
  configHome : String
  /-- The paths that were asked for and not found. -/
  missed : List String

namespace Stage

/-! ## Time -/

/-- The longest wait in place of one that reaches beyond 2⁶³ seconds: thirty years. -/
def longestWait : Nat := 946080000 * 1000000000

/-- The first whole millisecond that is not before `n` nanoseconds. -/
def tick (n : Nat) : Nat := (n + 999999) / 1000000 * 1000000

/-- The clock after a wait, which ends on a whole millisecond. -/
def afterWait (clock : Nat) (d : Duration) : Nat :=
  tick (clock + if 0x8000000000000000 * 1000000000 ≤ d.nanos then longestWait else d.nanos)

/-! ## Files -/

/-- Why a path could not be used; one that is not there is remembered. -/
def refuse {α : Type} (path : String) (e : Fault) (s : Stage) : Except String α × Stage :=
  (.error e.text, if e = .missing then { s with missed := path :: s.missed } else s)

/-- Reads a file. -/
def readFile (path : String) (s : Stage) : Except String Bytes × Stage :=
  match s.files.read [] path with
  | .ok content => (.ok content, s)
  | .error e => refuse path e s

def fileExists (path : String) (s : Stage) : Bool :=
  match s.files.locate [] path with
  | .ok ⟨_, some _⟩ | .error .isFolder => true
  | _ => false

/-! ## Programs -/

/-- Whether a text may be part of a command line. -/
def passable (text : String) : Bool := !text.toList.contains (Char.ofNat 0)

/-- Runs a script under a name with arguments. -/
def runScript (script : List Char) (name : String) (args : List String) (s : Stage) :
    Finished × Stage :=
  let (code, after) := Shell.run script (Shell.State.start s.files s.variables name args)
  (⟨code, after.out, after.err⟩, { s with files := after.root })

/-- Runs a program.  The shell takes its script from the command line; any other
program is an executable file, named by a path with a slash. -/
def spawn (program : String) (args : List String) (s : Stage) :
    Except String Finished × Stage :=
  if !(passable program && args.all passable) then
    (.error "nul byte found in provided data", s)
  else match program, args with
    | "sh", ["-c", script] =>
      let (f, s) := runScript script.toList "sh" [] s
      (.ok f, s)
    | program, args =>
      if !program.toList.contains '/' then (.error Fault.missing.text, s)
      else match s.files.locate [] program with
        | .error .isFolder => (.error Fault.denied.text, s)
        | .error e => refuse program e s
        | .ok ⟨_, none⟩ => refuse program .missing s
        | .ok ⟨_, some (.file content true)⟩ =>
          let (f, s) := runScript content.decodeLossy.toList program args s
          (.ok f, s)
        | .ok _ => (.error Fault.denied.text, s)

instance : Host Stage where
  now := Stage.clock
  sleep d s := { s with clock := afterWait s.clock d }
  today := Stage.today
  spawn := spawn
  readFile := readFile
  fileExists := fileExists
  getVariable name s := s.variables.lookup name
  configHome := Stage.configHome

/-! ## Company -/

/-- A stage together with a state of its users is a host as well. -/
instance {ω β : Type} [Host ω] : Host (ω × β) where
  now s := Clock.now s.1
  sleep d s := (Clock.sleep d s.1, s.2)
  today s := Host.today s.1
  spawn program args s :=
    let (r, h) := Host.spawn program args s.1
    (r, (h, s.2))
  readFile path s :=
    let (r, h) := Host.readFile path s.1
    (r, (h, s.2))
  fileExists path s := Host.fileExists path s.1
  getVariable name s := Host.getVariable name s.1
  configHome s := Host.configHome s.1

end Stage

end StackPlaybook.Rehearsal
