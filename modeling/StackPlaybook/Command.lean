import StackPlaybook.Json.Writer
import StackPlaybook.Playbook.Run

/-!
# StackPlaybook.Command

The commands: running a playbook file, resolving a resource, and listing the resources
of a stack.
-/

namespace StackPlaybook

/-- Where the resources of a stack come from, where not from the settings. -/
structure StackSource where
  region : Option String
  /-- A saved document. -/
  resources : Option String
  deriving DecidableEq, Repr

inductive Command where
  | run (path : String) (verbose : Bool)
  | resolve (id : String) (stack : Option String) (source : StackSource) (manifest : Option String)
    (json : Bool)
  | resources (stack : String) (source : StackSource) (json : Bool)
  deriving DecidableEq, Repr

namespace Command

variable {σ : Type} [Environment σ]

def display (n : Notice) : Act σ Unit := .change (Environment.display n)

/-- Loads a stack. -/
def loadRegistry (settings : Settings) (stack : String) (source : StackSource) : Act σ Registry := do
  let describer ← .ofExcept (settings.stack.choose source.resources)
  Registry.load describer stack (source.region.getD settings.stack.region)

/-! ## Running -/

/-- Runs a playbook file; a run that failed is an error. -/
def runPlaybook (settings : Settings) (path : String) (verbose : Bool) : Act σ Unit := do
  let report ← runFile settings verbose path
  match report.failureText with
  | none => return ()
  | some text => throw (.assertion ("playbook '" ++ report.name ++ "' failed: " ++ text))

/-! ## Resolving -/

/-- The registry that a target is resolved in.  An ARN needs no stack: without one it
is resolved in an empty registry. -/
def registryFor (settings : Settings) (id : String) (target : Target) (stack : Option String)
    (source : StackSource) (manifest : Option String) : Act σ Registry := do
  match stack, target with
  | some stack, _ =>
    let registry ← loadRegistry settings stack source
    match manifest with
    | some path => return registry.withManifest (← Manifest.load path)
    | none => return registry
  | none, .arn a => return .empty "" a.region a.account
  | none, .logicalId _ =>
    throw (.config ("--stack is required to resolve logical ID '" ++ id ++ "'"))

/-- The answer to a question for a resource. -/
def answerNotice (json : Bool) (id name arn : String) : Notice :=
  if json then
    .document (Json.Value.record [("id", .text id), ("name", .text name), ("arn", .text arn)]).pretty
  else .answer name arn

/-- Resolves an ID or ARN. -/
def resolveTarget (settings : Settings) (id : String) (stack : Option String)
    (source : StackSource) (manifest : Option String) (json : Bool) : Act σ Unit := do
  let target ← .ofExcept (Target.parse id)
  let registry ← registryFor settings id target stack source manifest
  let name ← Scene.nameOf registry target
  let arn ← Scene.arnOf registry target
  display (answerNotice json id name arn)

/-! ## Listing -/

/-- A resource as a document shows it. -/
def resourceValue (r : Resource) : Json.Value :=
  .record [("logical_id", .text r.logicalId), ("physical_id", .text r.physicalId),
    ("resource_type", .text r.resourceType)]

/-- The width of the column of logical IDs: that of the longest in UTF-8. -/
def columnWidth (resources : List Resource) : Nat :=
  (resources.map fun r => r.logicalId.utf8ByteSize).foldl max 0

/-- The width is the largest number of bytes in a logical ID. -/
theorem columnWidth_eq (resources : List Resource) :
    columnWidth resources = (resources.map (·.logicalId.utf8ByteSize)).max?.getD 0 := by
  rw [columnWidth, List.foldl_max, Nat.zero_max]

/-- No logical ID has more bytes than the column is wide. -/
theorem le_columnWidth {resources : List Resource} {r : Resource} (h : r ∈ resources) :
    r.logicalId.utf8ByteSize ≤ columnWidth resources := by
  rw [columnWidth_eq]
  cases hmax : (resources.map (·.logicalId.utf8ByteSize)).max? with
  | none => simp_all
  | some width => exact (List.max?_eq_some_iff.mp hmax).2 _ (List.mem_map.mpr ⟨r, h, rfl⟩)

/-- Some logical ID has as many. -/
theorem exists_eq_columnWidth {resources : List Resource} (h : resources ≠ []) :
    ∃ r ∈ resources, r.logicalId.utf8ByteSize = columnWidth resources := by
  rw [columnWidth_eq]
  cases hmax : (resources.map (·.logicalId.utf8ByteSize)).max? with
  | none => simp_all
  | some width => exact List.mem_map.mp (List.max?_eq_some_iff.mp hmax).1

/-- The listing of a stack. -/
def listing (json : Bool) (registry : Registry) : List Notice :=
  let resources := registry.resources
  if json then [.document (Json.Value.list (resources.map resourceValue)).pretty]
  else
    .stackHeader registry.stackName registry.region registry.account ::
      if resources.isEmpty then [.noResources]
      else resources.map (.row (columnWidth resources))

/-- Lists the resources of a stack. -/
def listResources (settings : Settings) (stack : String) (source : StackSource) (json : Bool) :
    Act σ Unit := do
  let registry ← loadRegistry settings stack source
  (listing json registry).forM display

/-! ## All commands -/

/-- Carries out a command with given settings. -/
def perform (settings : Settings) : Command → Act σ Unit
  | .run path verbose => runPlaybook settings path verbose
  | .resolve id stack source manifest json => resolveTarget settings id stack source manifest json
  | .resources stack source json => listResources settings stack source json

/-- Carries out a command with the user's settings. -/
def dispatch (c : Command) : Act σ Unit := do
  let settings ← Settings.load
  c.perform settings

end Command

end StackPlaybook
