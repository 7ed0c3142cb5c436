import StackPlaybook.Playbook.File
import StackPlaybook.Playbook.Observer
import StackPlaybook.Scene.Catalogue
import StackPlaybook.Settings

/-!
# StackPlaybook.Playbook.Run

Running a playbook file.

The file is read and every step of it checked before anything is shown or done.  Then
the stack is loaded, once, and the steps are played.  A stack that cannot be loaded and
a step that fails are results of the run; only a bad file is an error.
-/

namespace StackPlaybook

variable {σ : Type} [Environment σ]

/-! ## Reports -/

/-- How a run ended. -/
structure RunReport where
  name : String
  stepsTotal : Nat
  /-- Why the run failed, unless it passed. -/
  failure : Option Error
  deriving DecidableEq, Repr

namespace RunReport

def passed (r : RunReport) : Bool := r.failure.isNone

/-- The position of the step that failed. -/
def failedStep (r : RunReport) : Option Nat := (r.failure.bind Error.step?).map StepInfo.position

/-- The text of the failure. -/
def failureText (r : RunReport) : Option String := r.failure.map Error.message

end RunReport

/-! ## Scenes of steps -/

namespace PlaybookStep

/-- The scene of a step, whose command or target must be well formed. -/
def scene (verbose : Bool) : PlaybookStep → Except Error (Scene σ)
  | .shell command => (Template.parse command).map fun t => .shell ⟨t, verbose⟩
  | .pause seconds => .ok (.pause ⟨.ofSecs seconds⟩)
  | .poll command expect =>
    (Template.parse command).map fun t => .shellPoll ⟨t, expect.getD .none⟩
  | .resolve target => (Target.parse target).map fun t => .resolve ⟨t, verbose⟩

/-- The error of a file of which the step at a position is bad. -/
def complaint (position : Nat) (e : Error) : Error :=
  let text := match e with
    | .config message => message
    | e => e.message
  .config ("Step " ++ toString position ++ ": " ++ text)

/-- The scenes of steps from a position on, up to the first bad one. -/
def scenesFrom (verbose : Bool) : (position : Nat) → List PlaybookStep → Except Error (List (Scene σ))
  | _, [] => .ok []
  | position, step :: steps =>
    match step.scene verbose with
    | .error e => .error (complaint position e)
    | .ok scene => (scenesFrom verbose (position + 1) steps).map (scene :: ·)

end PlaybookStep

/-! ## Running -/

namespace PlaybookFile

/-- The playbook that a text holds. -/
def parse (path document : String) : Except Error PlaybookFile :=
  match parse? document with
  | some file => .ok file
  | none =>
    .error (.configParse ("Failed to parse playbook '" ++ path ++ "': " ++ Error.unreadable))

/-- The scenes of all steps. -/
def scenes (file : PlaybookFile) (verbose : Bool) : Except Error (List (Scene σ)) :=
  PlaybookStep.scenesFrom verbose 1 file.steps

/-- What is shown before the stack is loaded. -/
def opening (file : PlaybookFile) : List Notice :=
  .heading file.name :: (file.description.map Notice.description).toList ++ [.loading]

/-- Loads the stack of a playbook that lies in a folder, and then its manifest. -/
def loadRegistry (file : PlaybookFile) (settings : Settings) (folder : String) : Act σ Registry := do
  let stack := file.stack
  let describer ← .ofExcept (settings.stack.choose (stack.resourcesFile.map (Path.resolve folder)))
  let registry ← Registry.load describer stack.name (stack.region.getD settings.stack.region)
  match stack.manifest with
  | none => return registry
  | some path => return registry.withManifest (← Manifest.load (Path.resolve folder path))

/-- How the steps are paced and reported. -/
def pacing (file : PlaybookFile) (settings : Settings) (verbose : Bool) : Pacing Backoff σ :=
  settings.pacing (file.intervalMs.map Duration.ofMillis) (StepEvent.report verbose)

/-- The report of a run that ended in one way or the other. -/
def report (file : PlaybookFile) (failure : Option Error) : RunReport :=
  ⟨file.name, file.steps.length, failure⟩

/-- Plays the scenes of a playbook against the stack that was loaded for it. -/
def playScenes (file : PlaybookFile) (settings : Settings) (verbose : Bool)
    (scenes : List (Scene σ)) (registry : Registry) (s : σ) : RunReport × σ :=
  let s := Environment.display
    (.loaded registry.stackName registry.region registry.resources.length) s
  let s := Environment.display .steps s
  match (file.pacing settings verbose).play registry scenes s with
  | ((.ok (), _), s) => (file.report none, Environment.display .passed s)
  | ((.error e, _), s) => (file.report (some e), Environment.display .failed s)

/-- Runs a playbook from a folder with the scenes of its steps. -/
def perform (file : PlaybookFile) (settings : Settings) (verbose : Bool) (folder : String)
    (scenes : List (Scene σ)) (s : σ) : RunReport × σ :=
  let s := file.opening.foldl (fun s n => Environment.display n s) s
  match file.loadRegistry settings folder s with
  | (.error e, s) => (file.report (some e), Environment.display (.loadFailed e) s)
  | (.ok registry, s) => file.playScenes settings verbose scenes registry s

end PlaybookFile

/-- Runs the playbook file at a path. -/
def runFile (settings : Settings) (verbose : Bool) (path : String) : Act σ RunReport := do
  let document ← readText path
  let file ← .ofExcept (PlaybookFile.parse path document)
  let scenes ← .ofExcept (file.scenes verbose)
  fun s =>
    let (report, s) := file.perform settings verbose (Path.folder path) scenes s
    (.ok report, s)

end StackPlaybook
