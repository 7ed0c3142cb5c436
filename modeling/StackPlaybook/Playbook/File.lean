import StackPlaybook.Scene.Command
import StackPlaybook.Yaml.Shape

/-!
# StackPlaybook.Playbook.File

Playbook files: a name, the stack to run against, and the steps, written in YAML.
-/

namespace StackPlaybook

/-! ## Content -/

/-- The stack that a playbook runs against; what is not given comes from the settings.
Paths are relative to the playbook file. -/
structure StackChoice where
  name : String
  region : Option String
  /-- A saved document with the resources of the stack. -/
  resourcesFile : Option String
  manifest : Option String
  deriving DecidableEq, Repr

/-- A step as it is written: commands and targets are not read yet. -/
inductive PlaybookStep where
  /-- Runs a command once; it must exit with code 0. -/
  | shell (command : String)
  | pause (seconds : Nat)
  /-- Runs a command again until it meets an expectation. -/
  | poll (command : String) (expect : Option Scene.Expectation)
  /-- Checks that a target has a name and an ARN. -/
  | resolve (target : String)
  deriving DecidableEq, Repr

structure PlaybookFile where
  name : String
  description : Option String
  stack : StackChoice
  /-- The pause between steps, where it is not that of the settings. -/
  intervalMs : Option Nat
  steps : List PlaybookStep
  deriving DecidableEq, Repr

/-! ## Reading -/

open Yaml

def readExpectation (d : Datum) : Option Scene.Expectation := do
  match ← d.fields? ["success", "output_contains", "output_equals"] with
  | [success, contains, equals] =>
    let success ← Datum.optional Datum.bool? success
    let contains ← Datum.optional Datum.text? contains
    let equals ← Datum.optional Datum.text? equals
    return ⟨success, contains, equals⟩
  | _ => none

namespace PlaybookStep

/-- A step with a given action and the rest of what is written. -/
def ofAction (action : String) (content : Datum) : Option PlaybookStep :=
  match action with
  | "shell" => do
    match ← content.fields? ["command"] with
    | [command] => return .shell (← Datum.need Datum.text? command)
    | _ => none
  | "pause" => do
    match ← content.fields? ["seconds"] with
    | [seconds] => return .pause (← Datum.need Datum.nat? seconds)
    | _ => none
  | "poll" => do
    match ← content.fields? ["command", "expect"] with
    | [command, expect] =>
      let command ← Datum.need Datum.text? command
      return .poll command (← Datum.optional readExpectation expect)
    | _ => none
  | "resolve" => do
    match ← content.fields? ["target"] with
    | [target] => return .resolve (← Datum.need Datum.text? target)
    | _ => none
  | _ => none

/-- The levels that a part of a step may have: a step lies in a list in a record. -/
def room : Nat := maxDepth - 3

/-- The entries of a step: its action, given once, and the others. -/
def readEntries : List (Node × Node) → Reading (Option String × List (Datum × Datum))
  | [] => return (none, [])
  | (k, v) :: entries => do
    let key ← Reading.datum room k
    if key.text? = some "action" then
      let action ← Reading.text v
      let (other, rest) ← readEntries entries
      guard other.isNone
      return (some action, rest)
    else
      let value ← Reading.datum room v
      let (action, rest) ← readEntries entries
      return (action, (key, value) :: rest)

/-- A step: a record with its action, or a list that begins with it. -/
def reader (n : Node) : Reading PlaybookStep := do
  let (action, content) ← match ← Reading.follow n with
    | .record props entries =>
      guard !Scalar.isLocal props
      let (action, rest) ← readEntries entries
      pure (action, Datum.record rest)
    | .list props (action :: rest) =>
      guard !Scalar.isLocal props
      let action ← Reading.text action
      pure (some action, Datum.list (← rest.mapM (Reading.datum room)))
    | _ => failure
  match action.bind (ofAction · content) with
  | some step => return step
  | none => failure

end PlaybookStep

namespace StackChoice

def reader (n : Node) : Reading StackChoice := do
  match ← Reading.fields ["name", "region", "resources_file", "manifest"] n with
  | [name, region, resources, manifest] =>
    let name ← Reading.need Reading.text name
    let region ← Reading.optional Reading.text region
    let resources ← Reading.optional Reading.text resources
    let manifest ← Reading.optional Reading.text manifest
    return ⟨name, region, resources, manifest⟩
  | _ => failure

end StackChoice

namespace PlaybookFile

def reader (n : Node) : Reading PlaybookFile := do
  match ← Reading.fields ["name", "description", "stack", "interval_ms", "steps"] n with
  | [name, description, stack, interval, steps] =>
    let name ← Reading.need Reading.text name
    let description ← Reading.optional Reading.text description
    let stack ← Reading.need StackChoice.reader stack
    let interval ← Reading.optional Reading.nat interval
    let steps ← Reading.need Reading.list steps
    return ⟨name, description, stack, interval, ← steps.mapM PlaybookStep.reader⟩
  | _ => failure

/-- The playbook of a text. -/
def parse? (document : String) : Option PlaybookFile := Reading.run? reader document

end PlaybookFile

end StackPlaybook
