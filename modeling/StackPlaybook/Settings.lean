import StackPlaybook.Backoff
import StackPlaybook.Error
import StackPlaybook.Playbook.Play
import StackPlaybook.Stack.Describer
import StackPlaybook.Toml.Shape

/-!
# StackPlaybook.Settings

The user's settings: how playbooks are paced, how long polls wait, and where stacks
are described.  They are read from a TOML document in which everything has a default.
-/

namespace StackPlaybook

/-! ## Settings -/

/-- How long polls wait between their attempts. -/
structure WaitSettings where
  baseMs : Nat
  capMs : Nat
  maxRetries : UInt32
  deriving DecidableEq, Repr

namespace WaitSettings

def default : WaitSettings := ⟨100, 60000, 10⟩

/-- Waits grow from a positive base up to a cap that is not below it. -/
def Valid (w : WaitSettings) : Prop := 0 < w.baseMs ∧ w.baseMs ≤ w.capMs

instance (w : WaitSettings) : Decidable w.Valid := inferInstanceAs (Decidable (_ ∧ _))

/-- What is wrong with waits that are not valid. -/
def complaint (w : WaitSettings) : String :=
  if w.baseMs = 0 then "backoff.base_ms must be greater than zero"
  else "backoff.cap_ms (" ++ toString w.capMs ++ ") must not be smaller than backoff.base_ms (" ++
    toString w.baseMs ++ ")"

/-- A timer that has given no waits yet. -/
def backoff (w : WaitSettings) : Backoff := .new (.ofMillis w.baseMs) (.ofMillis w.capMs) w.maxRetries

end WaitSettings

/-- Which describer is used where no saved document is named. -/
inductive DescriberKind where
  | awsCli
  | file
  deriving DecidableEq, Repr

namespace DescriberKind

def ofName? : String → Option DescriberKind
  | "aws-cli" => some .awsCli
  | "file" => some .file
  | _ => none

def name : DescriberKind → String
  | .awsCli => "aws-cli"
  | .file => "file"

end DescriberKind

/-- How stacks are described unless a command or playbook says otherwise. -/
structure StackSettings where
  region : String
  describer : DescriberKind
  resourcesFile : Option String
  awsProgram : String
  deriving DecidableEq, Repr

namespace StackSettings

def default (region : String) : StackSettings := ⟨region, .awsCli, none, "aws"⟩

/-- The describer to be used: a saved document that is named wins over the settings. -/
def choose (s : StackSettings) (resources : Option String) : Except Error Describer :=
  match resources, s.describer, s.resourcesFile with
  | some path, _, _ => .ok (.file path)
  | none, .awsCli, _ => .ok (.program s.awsProgram)
  | none, .file, some path => .ok (.file path)
  | none, .file, none =>
    .error (.config "stack.describer = \"file\" requires stack.resources_file")

end StackSettings

structure Settings where
  /-- The pause between scenes in milliseconds. -/
  intervalMs : Nat
  waits : WaitSettings
  waits_valid : waits.Valid
  stack : StackSettings

namespace Settings

def defaultIntervalMs : Nat := 2000

/-- The settings of an empty document. -/
def default (region : String) : Settings :=
  ⟨defaultIntervalMs, .default, by decide, .default region⟩

def interval (s : Settings) : Duration := .ofMillis s.intervalMs

def backoff (s : Settings) : Backoff := s.waits.backoff

/-- How a play is paced under the settings: every scene has a backoff of its own, and the pause
between scenes is theirs unless another is given. -/
def pacing {σ : Type} (s : Settings) (interval : Option Duration) (observe : StepEvent → σ → σ) :
    Pacing Backoff σ :=
  ⟨interval.getD s.interval, fun _ => s.backoff, observe⟩

/-! ## Reading -/

open Toml

def readInterval (v : Value) : Option Nat := do
  match ← v.fields? ["interval_ms"] with
  | [interval] => interval.orElse defaultIntervalMs (Value.nat? 0x10000000000000000)
  | _ => none

def readWaits (v : Value) : Option WaitSettings := do
  match ← v.fields? ["base_ms", "cap_ms", "max_retries"] with
  | [base, cap, retries] =>
    let base ← base.orElse WaitSettings.default.baseMs (Value.nat? 0x10000000000000000)
    let cap ← cap.orElse WaitSettings.default.capMs (Value.nat? 0x10000000000000000)
    let retries ← retries.orElse WaitSettings.default.maxRetries fun v =>
      (v.nat? 0x100000000).map UInt32.ofNat
    return ⟨base, cap, retries⟩
  | _ => none

def readStack (region : String) (v : Value) : Option StackSettings := do
  let default := StackSettings.default region
  match ← v.fields? ["region", "describer", "resources_file", "aws_program"] with
  | [region, describer, resources, program] =>
    let region ← region.orElse default.region Value.text?
    let describer ← describer.orElse default.describer fun v => v.choice?.bind DescriberKind.ofName?
    let resources ← resources.optional Value.text?
    let program ← program.orElse default.awsProgram Value.text?
    return ⟨region, describer, resources, program⟩
  | _ => none

/-- The three parts of a document, the waits still unchecked. -/
def readParts (region : String) (document : Entries) :
    Option (Nat × WaitSettings × StackSettings) :=
  match Value.tableFields ["playbook", "backoff", "stack"] document with
  | [playbook, backoff, stack] => do
    let interval ← playbook.orElse defaultIntervalMs readInterval
    let waits ← backoff.orElse .default readWaits
    let stack ← stack.orElse (.default region) (readStack region)
    return (interval, waits, stack)
  | _ => none

/-- The settings of a document, with the region that is used where it names none. -/
def parse (region document : String) : Except Error Settings :=
  match (Toml.parse? document).bind (readParts region) with
  | none => .error (.configParse Error.unreadable)
  | some (interval, waits, stack) =>
    if h : waits.Valid then .ok ⟨interval, waits, h, stack⟩
    else .error (.config waits.complaint)

/-! ## Loading -/

variable {σ : Type} [Host σ]

/-- The region used where none is named. -/
def ambientRegion (s : σ) : String := (Host.getVariable "AWS_REGION" s).getD "us-east-1"

/-- The settings of a document, in the surroundings of a host. -/
def parseHere (document : String) : Act σ Settings := fun s =>
  (parse (ambientRegion s) document, s)

/-- Where the user's settings are kept. -/
def path (configHome : String) : String :=
  Path.resolve (Path.resolve configHome "stackprobe") "config.toml"

/-- The user's settings; without a file everything is at its default. -/
def load : Act σ Settings := fun s =>
  let file := path (Host.configHome s)
  if Host.fileExists file s then (readText file >>= parseHere) s
  else (.ok (default (ambientRegion s)), s)

/-- Without a file the settings are at their defaults. -/
theorem load_of_missing {s : σ} (h : Host.fileExists (path (Host.configHome s)) s = false) :
    load s = (.ok (default (ambientRegion s)), s) := by
  rw [load, h]
  rfl

end Settings

end StackPlaybook
