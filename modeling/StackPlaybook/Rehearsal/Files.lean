import StackPlaybook.Text.Search
import StackPlaybook.Text.Utf8

/-!
# StackPlaybook.Rehearsal.Files

A tree of files and folders, with paths that are followed component by component.
-/

namespace StackPlaybook.Rehearsal

/-! ## Trees -/

/-- A file with its content, or a folder with its entries. -/
inductive Node where
  | file (content : Bytes) (executable : Bool)
  | folder (entries : List (String × Node))
  deriving Inhabited

/-- Why a path leads nowhere, or not to what is wanted. -/
inductive Fault where
  | missing
  | notFolder
  | isFolder
  | denied
  | badName
  deriving DecidableEq, Repr

/-- The text of a fault without its number. -/
def Fault.short : Fault → String
  | .missing => "No such file or directory"
  | .notFolder => "Not a directory"
  | .isFolder => "Is a directory"
  | .denied => "Permission denied"
  | .badName => "file name contained an unexpected NUL byte"

/-- The text of a fault as reading or starting a program reports it. -/
def Fault.text : Fault → String
  | .missing => "No such file or directory (os error 2)"
  | .notFolder => "Not a directory (os error 20)"
  | .isFolder => "Is a directory (os error 21)"
  | .denied => "Permission denied (os error 13)"
  | .badName => "file name contained an unexpected NUL byte"

namespace Node

def emptyFolder : Node := .folder []

/-! ## Following a path -/

/-- Where a path leads: the names from the root, and the node there unless only the
last name is missing. -/
structure Found where
  names : List String
  node : Option Node

/-- Follows components from a node, with the names to it (last first) and the nodes
above it. -/
def follow (names : List String) (above : List Node) (here : Node) :
    List String → Except Fault Found
  | [] => .ok ⟨names.reverse, some here⟩
  | c :: cs =>
    match here with
    | .file .. => .error .notFolder
    | .folder entries =>
      if c = "" ∨ c = "." then follow names above here cs
      else if c = ".." then
        match above, names with
        | parent :: above, _ :: names => follow names above parent cs
        | _, _ => .error (if cs.isEmpty then .isFolder else .missing)
      else match entries.lookup c with
        | some node => follow (c :: names) (here :: above) node cs
        | none => if cs.isEmpty then .ok ⟨(c :: names).reverse, none⟩ else .error .missing

/-- The names of the path from the root on which relative paths start. -/
def components (path : String) : List String :=
  (Text.splitAt '/' path.toList).map String.ofList

/-- The name under which a tree holds what absolute paths lead to. -/
def rootName : String := "/"

/-- Where a path leads from the folder with the given names.  Absolute paths are
followed in the folder of their own; the root and the empty device always exist. -/
def locate (root : Node) (start : List String) (path : String) : Except Fault Found :=
  if path.toList.contains (Char.ofNat 0) then .error .badName
  else if path = "" then .error .missing
  else if Text.startsWith path "/" then
    if path = "/dev/null" then .ok ⟨["/dev/null"], some (.file [] false)⟩
    else if (components path).all (fun c => c = "" ∨ c = "." ∨ c = "..") then .error .isFolder
    else follow [] [] root (rootName :: components path)
  else follow [] [] root (start ++ components path)

/-- The names from the root of the tree of a path without `.` and `..`. -/
def namesOf (path : String) : List String :=
  let names := (components path).filter fun c => c != "" && c != "."
  if Text.startsWith path "/" then rootName :: names else names

/-- The content of the file at a path. -/
def read (root : Node) (start : List String) (path : String) : Except Fault Bytes :=
  match root.locate start path with
  | .error e => .error e
  | .ok ⟨_, some (.file content _)⟩ => .ok content
  | .ok ⟨_, some (.folder _)⟩ => .error .isFolder
  | .ok ⟨_, none⟩ => .error .missing

/-! ## Changing a tree -/

/-- The entries with one of them set. -/
def setEntry (name : String) (node : Node) : List (String × Node) → List (String × Node)
  | [] => [(name, node)]
  | e :: es => if e.1 = name then (name, node) :: es else e :: setEntry name node es

/-- Puts a node at the path of the given names, through folders that are made where
they are missing. -/
def putAt (node : Node) : List String → Node → Node
  | [], _ => node
  | name :: names, .folder entries =>
    .folder (setEntry name (putAt node names ((entries.lookup name).getD emptyFolder)) entries)
  | name :: names, .file .. => .folder [(name, putAt node names emptyFolder)]

/-- The tree with a node at the path of the given names. -/
def put (root : Node) (names : List String) (node : Node) : Node := putAt node names root

/-- Takes away the node at the path of the given names. -/
def removeAt : List String → Node → Node
  | [name], .folder entries => .folder (entries.filter (·.1 != name))
  | name :: names, .folder entries =>
    match entries.lookup name with
    | some node => .folder (setEntry name (removeAt names node) entries)
    | none => .folder entries
  | _, root => root

/-- The tree without the node at the path of the given names. -/
def remove (root : Node) (names : List String) : Node := removeAt names root

end Node

end StackPlaybook.Rehearsal
