import StackPlaybook.Stack.Target
import StackPlaybook.Template.Placeholder

/-!
# StackPlaybook.Template

Command texts with placeholders for the resources of a stack.  A template is read
when its playbook is loaded, so unknown placeholders and malformed ARNs are found
before any step runs; targets are resolved each time it is rendered.
-/

namespace StackPlaybook

/-! ## Segments -/

/-- What a placeholder stands for. -/
inductive Hole where
  | arn (target : Target)
  | name (target : Target)
  | region
  | account
  | stack
  deriving DecidableEq

/-- A part of a template: text to be kept, or a placeholder with its source text. -/
inductive Segment where
  | literal (text : String)
  | hole (source : String) (value : Hole)
  deriving DecidableEq

namespace Hole

/-- The meaning of a placeholder in a text; `arn` and `name` need an argument, which
is a target, and the other keys take none. -/
def ofPlaceholder (text : String) (p : Placeholder) : Except Error Hole :=
  match String.ofList p.key, p.arg.map String.ofList with
  | "arn", some id => (Target.parse id).map .arn
  | "name", some id => (Target.parse id).map .name
  | "region", none => .ok .region
  | "account", none => .ok .account
  | "stack", none => .ok .stack
  | _, _ => .error (.config
      ("Unknown placeholder '" ++ String.ofList p.source ++ "' in '" ++ text ++ "'"))

/-- The text that takes the place of a placeholder. -/
def render (registry : Registry) : Hole → Except Error String
  | .arn target => target.arnText registry
  | .name target => target.name registry
  | .region => .ok registry.region
  | .account => .ok registry.account
  | .stack => .ok registry.stackName

/-- The events of rendering a placeholder. -/
def events (registry : Registry) : Hole → List Log.Event
  | .arn target | .name target => target.events registry
  | _ => []

end Hole

namespace Segment

/-- The segment of a part of a text. -/
def ofPiece (text : String) : Placeholder.Piece → Except Error Segment
  | .gap cs => .ok (.literal (String.ofList cs))
  | .hole p => (Hole.ofPlaceholder text p).map (.hole (String.ofList p.source))

/-- The text of the segment as it was written. -/
def source : Segment → String
  | .literal text => text
  | .hole source _ => source

def render (registry : Registry) : Segment → Except Error String
  | .literal text => .ok text
  | .hole _ value => value.render registry

def events (registry : Registry) : Segment → List Log.Event
  | .literal _ => []
  | .hole _ value => value.events registry

end Segment

/-! ## Templates -/

/-- A command text with its segments. -/
structure Template where
  source : String
  segments : List Segment
  deriving DecidableEq

namespace Template

/-- Reads a text; the error is that of the leftmost bad placeholder. -/
def parse (text : String) : Except Error Template :=
  ((Placeholder.pieces text.toList).mapM (Segment.ofPiece text)).map (⟨text, ·⟩)

/-- The text with each placeholder replaced; the error is that of the leftmost one
that cannot be. -/
def render (t : Template) (registry : Registry) : Except Error String :=
  (t.segments.mapM (Segment.render registry)).map String.join

/-- The events of rendering, up to the first placeholder that cannot be replaced. -/
def events (registry : Registry) : List Segment → List Log.Event
  | [] => []
  | s :: rest =>
    s.events registry ++
      match s.render registry with
      | .ok _ => events registry rest
      | .error _ => []

end Template

end StackPlaybook
