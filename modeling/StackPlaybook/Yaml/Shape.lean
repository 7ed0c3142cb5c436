import StackPlaybook.Yaml.Datum
import StackPlaybook.Yaml.Parser

/-!
# StackPlaybook.Yaml.Shape

Reading YAML into types of fixed shape.

Where a text is asked for, every scalar will do, however it is written.  A node of
which nothing is known beforehand is read as a `Datum` first, whose type follows from
how the scalars are written.

Aliases are followed as they are met, but only so often: a text may not unfold to more
than a hundred times its size.
-/

namespace StackPlaybook.Yaml

/-- Reading parts of a document, with the number of aliases that may still be followed. -/
abbrev Reading := ReaderT Node (StateT Nat Option)

/-- The levels of lists and records that are read. -/
def maxDepth : Nat := 128

namespace Reading

/-- A node itself, or the one that an alias stands for. -/
def follow : Node → Reading Node
  | .reference anchor => do
    let left ← get
    guard (0 < left)
    set (left - 1)
    match (← read).find? anchor with
    | some n => return n
    | none => failure
  | n => return n

/-- Reads the one document of a text. -/
def run? {α : Type} (r : Node → Reading α) (text : String) : Option α := do
  let root ← parse? text
  let (a, _) ← ((r root).run root).run (root.size * 100)
  return a

/-! ## Parts of fixed shape -/

/-- Any scalar. -/
def text (n : Node) : Reading String := do
  match ← follow n with
  | .scalar _ _ s => return s
  | _ => failure

/-- A list, or nothing written. -/
def list (n : Node) : Reading (List Node) := do
  match ← follow n with
  | .list _ items => return items
  | .scalar _ .plain "" => return []
  | _ => failure

/-- The entries of a record under their keys, where no known key comes twice. -/
def known (names : List String) : List (Node × Node) → Reading (List (String × Node))
  | [] => return []
  | (k, v) :: entries => do
    let key ← text k
    let rest ← known names entries
    guard (!names.contains key || (rest.lookup key).isNone)
    return (key, v) :: rest

/-- The named fields of a record, whose other entries are passed over. -/
def fields (names : List String) (n : Node) : Reading (List (Option Node)) := do
  match ← follow n with
  | .record _ entries =>
    let entries ← known names entries
    return names.map fun n => entries.lookup n
  | _ => failure

/-- A field that must be there. -/
def need {α : Type} (r : Node → Reading α) : Option Node → Reading α
  | some n => r n
  | none => failure

/-- A field that may be missing, not written or null. -/
def optional {α : Type} (r : Node → Reading α) : Option Node → Reading (Option α)
  | none => return none
  | some n => do
    let n ← follow n
    match Scalar.absence n with
    | some true => return none
    | some false => return some (← r n)
    | none => failure

/-- A whole number below 2⁶⁴, written plainly or as a literal block with its tag. -/
def nat (n : Node) : Reading Nat := do
  match ← follow n with
  | .scalar props style s =>
    guard (style = .plain ∨ style = .literal ∧ props.tag = some (Scalar.standardTag "int"))
    match Scalar.unsigned? s with
    | some n => if n < 0x10000000000000000 then return n else failure
    | none => failure
  | _ => failure

/-! ## Parts of any shape -/

/-- A part of any shape, with at most `room` levels. -/
def datum : (room : Nat) → Node → Reading Datum
  | room, n => do
    match ← follow n, room with
    | .scalar props style s, _ =>
      match Scalar.datum? props style s with
      | some d => return d
      | none => failure
    | .list props items, room + 1 =>
      guard !Scalar.isLocal props
      return .list (← items.mapM (datum room))
    | .record props entries, room + 1 =>
      guard !Scalar.isLocal props
      return .record (← entries.mapM fun (k, v) => do return (← datum room k, ← datum room v))
    | _, _ => failure

end Reading

end StackPlaybook.Yaml
