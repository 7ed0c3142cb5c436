import StackPlaybook.Cli
import StackPlaybook.Rehearsal.Stage

/-!
# StackPlaybook.Main

The command line program.  It rehearses: commands are run by the shell of the rehearsal,
waits take no time, and files are copied from the disk when they are asked for.
-/

namespace StackPlaybook.Program

open Rehearsal

/-- The vars of the surroundings that matter. -/
def readVariables : IO (List (String × String)) := do
  let names := ["AWS_REGION", "RUST_LOG", "STACKPROBE_LOG_LEVEL", "CLICOLOR_FORCE", "NO_COLOR",
    "CLICOLOR", "XDG_CONFIG_HOME", "HOME"]
  names.filterMapM fun n => do return (← IO.getEnv n).map (n, ·)

/-- The file at a path, if it can be read. -/
def copyFile (path : String) : IO (Option (String × Node)) := do
  try
    let content ← IO.FS.readBinFile path
    return some (path, .file content.toList true)
  catch _ => return none

def putFile (stage : Stage) (path : String) (node : Node) : Stage :=
  { stage with files := Node.put stage.files (Node.namesOf path) node }

/-- Runs the program on a stage, and again as long as files that it missed can be had. -/
def rehearse (args : List String) : Nat → Stage → IO (Ending × Session Stage)
  | 0, stage => return Cli.run args (Session.start stage)
  | fuel + 1, stage => do
    let (ending, session) := Cli.run args (Session.start stage)
    let found ← session.host.missed.eraseDups.filterMapM copyFile
    if found.isEmpty then return (ending, session)
    rehearse args fuel (found.foldl (fun stage (path, node) => putFile stage path node) stage)

/-- A log event as one line. -/
def logLine (e : Log.Event) : String :=
  let field : String × Log.Datum → String
    | (name, .text s) => " " ++ name ++ "=" ++ s
    | (name, .number n) => " " ++ name ++ "=" ++ toString n
  e.level.name ++ " " ++ e.target ++ ": " ++ e.message ++ String.join (e.fields.map field)

/-- Runs the program and prints what it shows; the result is the exit code. -/
def start (args : List String) : IO UInt32 := do
  let vars ← readVariables
  let home := (vars.lookup "HOME").getD ""
  let configHome := (vars.lookup "XDG_CONFIG_HOME").getD (Path.resolve home ".config")
  let stage : Stage := ⟨.emptyFolder, 0, default, vars, configHome, []⟩
  let stage ← match ← copyFile (Settings.path configHome) with
    | some (path, node) => pure (putFile stage path node)
    | none => pure stage
  let (ending, session) ← rehearse args 100 stage
  let shown := session.journal.filter (Log.Filter.passes (Cli.filter args session))
  for e in shown do IO.eprintln (logLine e)
  let terminal ← (← IO.getStdout).isTty
  IO.print (session.stdout (Cli.colours terminal session))
  match ending with
  | .success => pure ()
  | .failure e => IO.eprintln ("Error: " ++ e.message)
  | .misuse => IO.eprintln Topic.overview
  return UInt32.ofNat ending.code

end StackPlaybook.Program

def main (args : List String) : IO UInt32 := StackPlaybook.Program.start args
