import StackPlaybook.Scene.Poll
import StackPlaybook.Template
import StackPlaybook.Text.Blank

/-!
# StackPlaybook.Scene.Command

Scenes of playbook files: shell commands run once or polled, and targets that must
resolve.
-/

namespace StackPlaybook.Scene

variable {σ : Type} [Environment σ]

/-! ## Running a command -/

/-- What a command left behind, its output read as text. -/
structure Ran where
  code : Option Nat
  stdout : String
  stderr : String
  deriving DecidableEq, Repr

namespace Ran

def success (r : Ran) : Bool := r.code == some 0

end Ran

def shellTarget : String := "stackprobe::testing::shell"

/-- The text of a template. -/
def renderText (registry : Registry) (t : Template) : Act σ String := do
  .change (Environment.logAll (Template.events registry t.segments))
  .ofExcept (t.render registry)

/-- What became of a command, unless the shell could not be started. -/
def ranOf (command : String) : Except String Finished → Except Error Ran
  | .ok f => .ok ⟨f.code, f.stdout.decodeLossy, f.stderr.decodeLossy⟩
  | .error reason =>
    .error (.operation "shell" ("failed to execute '" ++ command ++ "': " ++ reason))

def runEvent (command : String) : Log.Event :=
  ⟨.debug, shellTarget, "Running shell command", [("command", .text command)]⟩

/-- Runs a command with the shell. -/
def runShell (command : String) : Act σ Ran := fun s =>
  let (run, s) := Host.spawn "sh" ["-c", command] (Environment.log (runEvent command) s)
  (ranOf command run, s)

/-- Rendering a text logs the look-ups of its placeholders and does nothing else. -/
theorem renderText_apply (registry : Registry) (t : Template) (s : σ) :
    renderText registry t s =
      (t.render registry, Environment.logAll (Template.events registry t.segments) s) := rfl

/-! ## Once -/

/-- A command that must exit with code 0. -/
structure ShellAction where
  command : Template
  verbose : Bool

namespace ShellAction

def label (a : ShellAction) : String := "$ " ++ a.command.source

/-- Shows what a command wrote, if details are wanted. -/
def showOutput (verbose : Bool) (stdout : String) (s : σ) : σ :=
  if verbose && stdout != "" then Environment.display (.commandOutput stdout) s else s

/-- What a command that ran means: any exit code but 0 is a failure. -/
def verdict (command : String) (ran : Ran) : Except Error Outcome :=
  if ran.success then .ok .done
  else .error (.operation "shell" ("'" ++ command ++ "' failed with exit code " ++
    exitText ran.code ++ ": " ++ Text.trim ran.stderr))

def attempt (a : ShellAction) (registry : Registry) : Act σ Outcome := do
  let command ← renderText registry a.command
  let ran ← runShell command
  .change (showOutput a.verbose ran.stdout)
  .ofExcept (verdict command ran)

end ShellAction

/-! ## Polled -/

/-- What is expected of a command: how it ends, a text that its output contains, and
the output it has up to blanks at the ends. -/
structure Expectation where
  success : Option Bool
  outputContains : Option String
  outputEquals : Option String
  deriving DecidableEq, Repr, Inhabited

namespace Expectation

/-- Nothing said: the command must exit with code 0. -/
def none : Expectation := ⟨.none, .none, .none⟩

def checkSuccess (e : Expectation) (ran : Ran) : Except Error Unit :=
  let want := e.success.getD true
  if ran.success = want then .ok ()
  else .error (.assertion ("expected success=" ++ (if want then "true" else "false") ++
    ", got exit code " ++ exitText ran.code))

def checkContains (e : Expectation) (ran : Ran) : Except Error Unit :=
  match e.outputContains with
  | .none => .ok ()
  | some needle =>
    if Text.contains ran.stdout needle then .ok ()
    else .error (.assertion ("output does not contain '" ++ needle ++ "'"))

def checkEquals (e : Expectation) (ran : Ran) : Except Error Unit :=
  match e.outputEquals with
  | .none => .ok ()
  | some expected =>
    if Text.trim ran.stdout = Text.trim expected then .ok ()
    else .error (.assertion ("expected output '" ++ Text.trim expected ++ "', got '" ++
      Text.trim ran.stdout ++ "'"))

/-- The first expectation that a command does not meet: success, then the text that
is contained, then the whole output. -/
def check (e : Expectation) (ran : Ran) : Except Error Unit := do
  e.checkSuccess ran
  e.checkContains ran
  e.checkEquals ran

end Expectation

/-- A command that is run again until it meets an expectation. -/
structure ShellPoll where
  command : Template
  expect : Expectation

namespace ShellPoll

def label (p : ShellPoll) : String := "poll $ " ++ p.command.source

/-- What a command that ran means: an expectation that is not met may be met later. -/
def verdict (expect : Expectation) (ran : Ran) : Outcome :=
  match expect.check ran with
  | .ok () => .done
  | .error e => .retry e

def attempt (p : ShellPoll) (registry : Registry) : Act σ Outcome :=
  absorb do
    let command ← renderText registry p.command
    let ran ← runShell command
    return verdict p.expect ran

end ShellPoll

/-! ## Resolving -/

/-- A target that must have a name and an ARN. -/
structure ResolveStep where
  target : Target
  verbose : Bool

namespace ResolveStep

def label (r : ResolveStep) : String := "resolve " ++ r.target.text

def attempt (r : ResolveStep) (registry : Registry) : Act σ Outcome := do
  let name ← nameOf registry r.target
  let arn ← arnOf registry r.target
  .change fun s => if r.verbose then Environment.display (.resolved name arn) s else s
  return .done

end ResolveStep

end StackPlaybook.Scene
