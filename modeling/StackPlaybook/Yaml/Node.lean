import StackPlaybook.Yaml.Token

/-!
# StackPlaybook.Yaml.Node

The nodes that a YAML document consists of.
-/

namespace StackPlaybook.Yaml

/-- The properties of a node: the number of its anchor, and its tag in full. -/
structure Props where
  anchor : Option Nat
  tag : Option String
  deriving DecidableEq, Repr

namespace Props

def none : Props := ⟨.none, .none⟩

end Props

inductive Node where
  /-- The node with an anchor once more. -/
  | reference (anchor : Nat)
  | scalar (props : Props) (style : Style) (text : String)
  | list (props : Props) (items : List Node)
  | record (props : Props) (entries : List (Node × Node))
  deriving Inhabited

namespace Node

/-- A node that is not written at all. -/
def empty (props : Props) : Node := .scalar props .plain ""

mutual

/-- The last node in the order of the text that has an anchor. -/
def find? (anchor : Nat) : Node → Option Node
  | .reference _ => none
  | .scalar props style text =>
    if props.anchor = some anchor then some (.scalar props style text) else none
  | .list props items =>
    (findIn? anchor items).or (if props.anchor = some anchor then some (.list props items) else none)
  | .record props entries =>
    (findAmong? anchor entries).or
      (if props.anchor = some anchor then some (.record props entries) else none)

def findIn? (anchor : Nat) : List Node → Option Node
  | [] => none
  | n :: ns => (findIn? anchor ns).or (find? anchor n)

def findAmong? (anchor : Nat) : List (Node × Node) → Option Node
  | [] => none
  | (k, v) :: es => ((findAmong? anchor es).or (find? anchor v)).or (find? anchor k)

end

mutual

/-- The size of a node: one for each scalar and alias, and two for each collection. -/
def size : Node → Nat
  | .reference _ | .scalar .. => 1
  | .list _ items => 2 + sizeOfItems items
  | .record _ entries => 2 + sizeOfEntries entries

def sizeOfItems : List Node → Nat
  | [] => 0
  | n :: ns => size n + sizeOfItems ns

def sizeOfEntries : List (Node × Node) → Nat
  | [] => 0
  | (k, v) :: es => size k + size v + sizeOfEntries es

end

end Node

end StackPlaybook.Yaml
