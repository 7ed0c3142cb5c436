import StackPlaybook.Error
import StackPlaybook.Json.Shape
import StackPlaybook.Json.Writer
import StackPlaybook.Text.Search

/-!
# StackPlaybook.Stack.Manifest

CDK manifests.  A construct `c` of stack `S` is recorded under the metadata path
`/S/c/Resource`; the entries of type `aws:cdk:logicalId` there name its logical ID,
the last of them if there are several.
-/

namespace StackPlaybook

/-! ## The document -/

/-- A metadata entry. -/
structure MetadataEntry where
  kind : String
  data : Json.Value

/-- An artifact: its metadata entries under their paths. -/
abbrev Artifact := List (String × List MetadataEntry)

/-- A cloud assembly: its artifacts under their names. -/
abbrev Assembly := List (String × Artifact)

namespace Assembly

open Json.Reader

def entryReader : Json.Reader MetadataEntry :=
  fields ["type", "data"] fun room given =>
    match given with
    | [kind, data] => do
      let kind ← kind.need text room
      let data ← data.orElse .null value room
      return ⟨kind, data⟩
    | _ => none

def artifactReader : Json.Reader Artifact :=
  fields ["metadata"] fun room given =>
    match given with
    | [metadata] =>
      (metadata.orElse Table.empty (table (list entryReader)) room).map Table.entries
    | _ => none

/-- Reads a manifest document. -/
def reader : Json.Reader Assembly :=
  fields ["artifacts"] fun room given =>
    match given with
    | [artifacts] => (artifacts.orElse Table.empty (table artifactReader) room).map Table.entries
    | _ => none

end Assembly

/-! ## The mapping -/

/-- Logical IDs of constructs, for each stack. -/
structure Manifest where
  byStack : Table (Table String)

namespace Manifest

/-- The construct that a metadata path of a stack stands for. -/
def constructOf? (stack path : String) : Option String := do
  let rest ← Text.afterLead ('/' :: stack.toList ++ ['/']) path.toList
  let construct ← Text.beforeTail "/Resource".toList rest
  return String.ofList construct

/-- The type of the entries that name a logical ID. -/
def logicalIdKind : String := "aws:cdk:logicalId"

/-- The logical IDs named by the entries under a path, each of which must be a text. -/
def idsOfEntries (path : String) (entries : List MetadataEntry) : Except Error (List String) :=
  (entries.filter (·.kind == logicalIdKind)).mapM fun e =>
    match e.data with
    | .text id => .ok id
    | data => .error (.manifestParse
        ("metadata for '" ++ path ++ "' is not a string: " ++ data.compact))

/-- The constructs of a stack with the logical IDs named for them, in the order of
the entries. -/
def idsOfArtifact (stack : String) (artifact : Artifact) :
    Except Error (List (String × String)) := do
  let named ← artifact.mapM fun (path, entries) =>
    match constructOf? stack path with
    | none => .ok []
    | some construct => (idsOfEntries path entries).map fun ids => ids.map ((construct, ·))
  return named.flatten

/-- The mapping that an assembly records. -/
def ofAssembly (assembly : Assembly) : Except Error Manifest := do
  let tables ← assembly.mapM fun (stack, artifact) =>
    (idsOfArtifact stack artifact).map fun ids => (stack, Table.ofList ids)
  return ⟨Table.ofList (tables.filter fun s => !s.2.isEmpty)⟩

/-- Reads a manifest document. -/
def parse (document : String) : Except Error Manifest :=
  match Assembly.reader.run? document with
  | none => .error (.manifestParse Error.unreadable)
  | some assembly => ofAssembly assembly

/-- The logical ID recorded for a construct of a stack. -/
def logicalId? (m : Manifest) (stack construct : String) : Option String :=
  (m.byStack.get? stack).bind (·.get? construct)

end Manifest

end StackPlaybook
