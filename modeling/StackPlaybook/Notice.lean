import StackPlaybook.Error
import StackPlaybook.Stack.Resource
import StackPlaybook.Style

/-!
# StackPlaybook.Notice

Everything that is shown to the user on standard output.  A run produces notices;
`Notice.render` writes them, with or without colours.
-/

namespace StackPlaybook

inductive Notice where
  /-- A playbook file is being run. -/
  | heading (name : String)
  | description (text : String)
  | loading
  | loadFailed (error : Error)
  | loaded (stack region : String) (resources : Nat)
  | steps
  /-- A scene begins; shown only when asked for details. -/
  | stepStarted (step : StepInfo)
  /-- An attempt failed and may be repeated; shown only when asked for details. -/
  | attemptFailed (step : StepInfo) (attempt : Nat) (error : Error)
  | stepDone (step : StepInfo) (attempts : Nat)
  | stepFailed (step : StepInfo) (error : Error)
  /-- What a command wrote; shown only when asked for details. -/
  | commandOutput (text : String)
  /-- What a target resolved to; shown only when asked for details. -/
  | resolved (name arn : String)
  | passed
  | failed
  /-- The answer to a question for a resource. -/
  | answer (name arn : String)
  | stackHeader (stack region account : String)
  | noResources
  /-- A row of a listing, its first column padded to `width` characters. -/
  | row (width : Nat) (resource : Resource)
  /-- A document on lines of its own. -/
  | document (text : String)
  deriving DecidableEq, Repr

namespace Notice

/-- Whether the notice is shown only when details are asked for. -/
def isDetail : Notice → Bool
  | .stepStarted .. | .attemptFailed .. | .commandOutput .. | .resolved .. => true
  | _ => false

/-- The text with blanks added at its end up to `width` characters. -/
def padTo (width : Nat) (text : String) : String :=
  text ++ String.ofList (List.replicate (width - text.length) ' ')

/-- A text that is not too long is filled up to the width, in characters. -/
theorem length_padTo {width : Nat} {text : String} (h : text.length ≤ width) :
    (padTo width text).length = width := by
  simp [padTo]
  omega

/-- The text of a notice, with its line breaks. -/
def render (colours : Bool) : Notice → String
  | .heading name =>
    "\n" ++ Style.boldBlue.paint colours "Running Test:" ++ " " ++
      Style.boldWhite.paint colours name ++ "\n"
  | .description text => "  " ++ Style.dimmed.paint colours text ++ "\n"
  | .loading => "\n" ++ Style.cyan.paint colours "Loading stack..." ++ "\n"
  | .loadFailed error => "  " ++ Style.red.paint colours "✗" ++ " " ++ error.message ++ "\n"
  | .loaded stack region resources =>
    "  " ++ Style.green.paint colours "✓" ++ " " ++ stack ++ " (" ++
      Style.dimmed.paint colours region ++ ", " ++ toString resources ++ " resources)\n"
  | .steps => "\n" ++ Style.cyan.paint colours "Steps:" ++ "\n"
  | .stepStarted step =>
    "  " ++ Style.cyan.paint colours "→" ++ " " ++ Style.dimmed.paint colours step.text ++ "\n"
  | .attemptFailed step attempt error =>
    "    " ++ Style.yellow.paint colours "…" ++ " Step " ++ toString step.position ++
      " attempt " ++ toString attempt ++ ": " ++ Style.dimmed.paint colours error.message ++ "\n"
  | .stepDone step attempts =>
    let count := if 1 < attempts then " (" ++ toString attempts ++ " attempts)" else ""
    "  " ++ Style.green.paint colours "✓" ++ " Step " ++ toString step.position ++ ": " ++
      Style.dimmed.paint colours step.label ++ Style.dimmed.paint colours count ++ "\n"
  | .stepFailed step error =>
    "  " ++ Style.red.paint colours "✗" ++ " Step " ++ toString step.position ++ ": " ++
      error.message ++ "\n"
  | .commandOutput text => Style.dimmed.paint colours text
  | .resolved name arn =>
    "    " ++ Style.white.paint colours name ++ " " ++ Style.dimmed.paint colours arn ++ "\n"
  | .passed =>
    "\n" ++ Style.boldGreen.paint colours "✓" ++ " " ++
      Style.boldGreen.paint colours "Test Passed" ++ "\n\n"
  | .failed =>
    "\n" ++ Style.boldRed.paint colours "✗" ++ " " ++
      Style.boldRed.paint colours "Test Failed" ++ "\n\n"
  | .answer name arn =>
    Style.bold.paint colours "Name:" ++ " " ++ name ++ "\n" ++
      Style.bold.paint colours "ARN: " ++ " " ++ arn ++ "\n"
  | .stackHeader stack region account =>
    Style.bold.paint colours "Stack:" ++ " " ++ stack ++ " (" ++ region ++ ", account " ++
      account ++ ")\n"
  | .noResources => "No resources\n"
  | .row width r =>
    "  " ++ padTo width r.logicalId ++ "  " ++ r.physicalId ++ "  " ++
      Style.dimmed.paint colours r.resourceType ++ "\n"
  | .document text => text ++ "\n"

/-- A row in one colour: the padded logical ID, the physical ID and the type. -/
theorem render_row (width : Nat) (r : Resource) :
    render false (.row width r) =
      "  " ++ padTo width r.logicalId ++ "  " ++ r.physicalId ++ "  " ++ r.resourceType ++ "\n" := rfl

/-- The text of several notices. -/
def renderAll (colours : Bool) (notices : List Notice) : String :=
  String.join (notices.map (render colours))

theorem renderAll_cons (colours : Bool) (n : Notice) (notices : List Notice) :
    renderAll colours (n :: notices) = n.render colours ++ renderAll colours notices := by
  rw [renderAll, List.map_cons, String.join_cons]
  rfl

theorem renderAll_append (colours : Bool) (notices more : List Notice) :
    renderAll colours (notices ++ more) = renderAll colours notices ++ renderAll colours more := by
  rw [renderAll, List.map_append, String.join_append]
  rfl

end Notice

end StackPlaybook
