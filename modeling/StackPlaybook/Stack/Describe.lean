import StackPlaybook.Error
import StackPlaybook.Json.Shape
import StackPlaybook.Log
import StackPlaybook.Stack.Resource

/-!
# StackPlaybook.Stack.Describe

The document that `describe-stack-resources` prints, and the description read from
it for one stack.

A document is accepted for a stack when every resource in it belongs to that stack,
under its name or its full ID, and some resource names the stack's ID.
-/

namespace StackPlaybook

/-- A resource as the document lists it. -/
structure DescribedResource where
  stackName : Option String
  stackId : Option String
  logicalId : String
  physicalId : Option String
  resourceType : String
  deriving DecidableEq, Repr

namespace DescribedResource

open Json.Reader in
/-- Reads a listed resource. -/
def reader : Json.Reader DescribedResource :=
  fields ["StackName", "StackId", "LogicalResourceId", "PhysicalResourceId", "ResourceType"]
    fun room given =>
      match given with
      | [stackName, stackId, logicalId, physicalId, resourceType] => do
        let stackName ← stackName.optional text room
        let stackId ← stackId.optional text room
        let logicalId ← logicalId.need text room
        let physicalId ← physicalId.optional text room
        let resourceType ← resourceType.need text room
        return ⟨stackName, stackId, logicalId, physicalId, resourceType⟩
      | _ => none

/-- Whether the resource may be one of the stack, given by name or by full ID; one
that does not name its stack may. -/
def belongsTo (r : DescribedResource) (stack : String) : Bool :=
  match r.stackName with
  | none => true
  | some name => name == stack || r.stackId == some stack

/-- The resource as the description keeps it, if it has a physical ID. -/
def deployed? (r : DescribedResource) : Option Resource :=
  r.physicalId.map fun id => ⟨r.logicalId, id, r.resourceType⟩

end DescribedResource

namespace StackDescription

/-- The listed resources of a document. -/
def listing : Json.Reader (List DescribedResource) :=
  Json.Reader.fields ["StackResources"] fun room given =>
    match given with
    | [resources] => resources.orElse [] (Json.Reader.list DescribedResource.reader) room
    | _ => none

/-- The description of `stack` in a list of resources. -/
def ofListing (listed : List DescribedResource) (stack region : String) :
    Except Error StackDescription :=
  if listed.any (fun r => !r.belongsTo stack) then .error (.stackNotFound stack region)
  else match listed.findSome? (·.stackId) with
    | none => .error (.stackDescribe stack "no stack ID in describe output")
    | some stackId => .ok ⟨stackId, listed.filterMap (·.deployed?)⟩

/-- The description of `stack` in a document. -/
def parse (document stack region : String) : Except Error StackDescription :=
  match listing.run? document with
  | none => .error (.stackDescribe stack Error.unreadable)
  | some listed => ofListing listed stack region

/-- The events of reading an accepted document: each resource without a physical ID
is mentioned. -/
def skipped (document stack region : String) : List Log.Event :=
  match listing.run? document, parse document stack region with
  | some listed, .ok _ =>
    listed.filterMap fun r =>
      if r.physicalId.isSome then none
      else some ⟨.debug, "stackprobe::stack::describer", "Skipping resource without physical ID",
        [("logical_id", .text r.logicalId)]⟩
  | _, _ => []

end StackDescription

end StackPlaybook
