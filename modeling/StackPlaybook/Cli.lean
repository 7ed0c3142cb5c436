import StackPlaybook.Arguments
import StackPlaybook.Log.Filter

/-!
# StackPlaybook.Cli

The program: from arguments to what is printed, what is logged and how it ends.
-/

namespace StackPlaybook

/-- How the program ends. -/
inductive Ending where
  | success
  | failure (error : Error)
  /-- The arguments ask for nothing that there is. -/
  | misuse
  deriving DecidableEq, Repr

namespace Ending

def code : Ending → Nat
  | .success => 0
  | .failure _ => 1
  | .misuse => 2

/-- The text of the error, where the program failed. -/
def failureText : Ending → Option String
  | .failure e => some e.message
  | _ => none

end Ending

namespace Cli

variable {σ : Type}

def versionText : String := "stackprobe 0.1.0"

/-! ## Surroundings -/

/-- Whether a command asks for details. -/
def isVerbose : Request → Bool
  | .command (.run _ verbose) => verbose
  | _ => false

/-- Which log events are shown: directives in `RUST_LOG` come first, then a level in
`STACKPROBE_LOG_LEVEL`. -/
def filter [Host σ] (args : List String) (s : σ) : Log.Filter :=
  .choose (Host.getVariable "RUST_LOG" s) (Host.getVariable "STACKPROBE_LOG_LEVEL" s)
    (isVerbose (.parse args))

/-- Whether colours are used: they can be forced or forbidden, and are otherwise used
on a terminal. -/
def colours [Host σ] (terminal : Bool) (s : σ) : Bool :=
  let isOn (name : String) : Option Bool := (Host.getVariable name s).map (· != "0")
  if isOn "CLICOLOR_FORCE" = some true then true
  else if (isOn "NO_COLOR").isSome then false
  else terminal && (isOn "CLICOLOR").getD true

/-! ## Running -/

variable [Environment σ]

/-- Prints a text. -/
def printed (text : String) (s : σ) : Ending × σ :=
  (.success, Environment.display (.document text) s)

/-- Carries out a request. -/
def answer (r : Request) (s : σ) : Ending × σ :=
  match r with
  | .command c =>
    match c.dispatch s with
    | (.ok (), s) => (.success, s)
    | (.error e, s) => (.failure e, s)
  | .help (some t) => printed t.help s
  | .help none => printed Topic.overview s
  | .version => printed versionText s
  | .misuse => (.misuse, s)

/-- Runs the program. -/
def run (args : List String) (s : σ) : Ending × σ := answer (.parse args) s

end Cli

end StackPlaybook
