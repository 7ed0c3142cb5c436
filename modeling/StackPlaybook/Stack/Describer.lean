import StackPlaybook.Environment
import StackPlaybook.Path
import StackPlaybook.Stack.Describe
import StackPlaybook.Stack.Registry
import StackPlaybook.Text.Blank

/-!
# StackPlaybook.Stack.Describer

Where the description of a stack comes from: a saved document, or a program that
prints one.  A registry is loaded by describing its stack once.
-/

namespace StackPlaybook

inductive Describer where
  /-- A saved document. -/
  | file (path : String)
  /-- A program with the command line of the AWS CLI. -/
  | program (name : String)
  deriving DecidableEq, Repr

namespace Describer

variable {σ : Type} [Environment σ]

def logTarget : String := "stackprobe::stack::describer"

/-- The arguments that ask for the resources of a stack. -/
def arguments (stack region : String) : List String :=
  ["cloudformation", "describe-stack-resources", "--stack-name", stack, "--region", region,
    "--output", "json"]

/-- The description of a stack in a document, each resource that is passed over being
logged. -/
def read (stack region document : String) : Act σ StackDescription := do
  .change (Environment.logAll (StackDescription.skipped document stack region))
  .ofExcept (StackDescription.parse document stack region)

/-- What the output of a program that failed says about a stack. -/
def refusal (stack region output : String) : Error :=
  if Text.contains output "does not exist" then .stackNotFound stack region
  else .stackDescribe stack (Text.trim output)

/-- The log event of a program that failed. -/
def failureEvent (code : Option Nat) (output : String) : Log.Event :=
  ⟨.warn, logTarget, "describe-stack-resources failed",
    [("status", .text (exitText code)), ("stderr", .text (Text.trim output))]⟩

/-- Asks a program for the resources of a stack. -/
def ask (program stack region : String) : Act σ StackDescription := do
  .change (Environment.log ⟨.debug, logTarget, "Describing stack",
    [("program", .text program), ("stack", .text stack), ("region", .text region)]⟩)
  let finished ← fun s =>
    match Host.spawn program (arguments stack region) s with
    | (.ok f, s) => (.ok f, s)
    | (.error reason, s) =>
      (.error (.stackDescribe stack ("failed to run " ++ program ++ ": " ++ reason)), s)
  if finished.success then read stack region finished.stdout.decodeLossy
  else
    let output := finished.stderr.decodeLossy
    .change (Environment.log (failureEvent finished.code output))
    throw (refusal stack region output)

/-- The description of a stack. -/
def describe (stack region : String) : Describer → Act σ StackDescription
  | .file path => readText path >>= read stack region
  | .program name => ask name stack region

end Describer

namespace Registry

variable {σ : Type} [Environment σ]

/-- Describes a stack once and keeps the result. -/
def load (describer : Describer) (stack region : String) : Act σ Registry := do
  let description ← describer.describe stack region
  let registry ← .ofExcept (ofDescription stack region description)
  .change (Environment.log ⟨.info, "stackprobe::stack::registry", "Loaded stack resources",
    [("stack", .text stack), ("region", .text region),
     ("resources", .number registry.resources.length)]⟩)
  return registry

end Registry

namespace Manifest

variable {σ : Type} [Host σ]

/-- Reads a manifest file. -/
def load (path : String) : Act σ Manifest := do
  let document ← readText path
  .ofExcept (parse document)

end Manifest

end StackPlaybook
