import StackPlaybook.Arn
import StackPlaybook.Log
import StackPlaybook.Stack.Manifest
import StackPlaybook.Stack.Resource

/-!
# StackPlaybook.Stack.Registry

The resources of one stack in one region, looked up by logical ID or, with a
manifest, by construct.  A registry is filled once from a description and does not
change afterwards.
-/

namespace StackPlaybook

structure Registry where
  stackName : String
  region : String
  account : String
  table : Table Resource
  manifest : Option Manifest

namespace Registry

/-- A registry without resources. -/
def empty (stackName region account : String) : Registry :=
  ⟨stackName, region, account, .empty, none⟩

/-- The registry of a description, whose stack ID must be an ARN: it gives the
account.  Of resources with one logical ID the last stays. -/
def ofDescription (stackName region : String) (d : StackDescription) : Except Error Registry := do
  let stackArn ← Arn.parse d.stackId
  return ⟨stackName, region, stackArn.account,
    Table.ofList (d.resources.map fun r => (r.logicalId, r)), none⟩

/-- A registry takes its account from the ARN of the stack, and its table from the resources
described. -/
theorem exists_of_ofDescription {stackName region : String} {d : StackDescription} {r : Registry}
    (h : ofDescription stackName region d = .ok r) :
    ∃ stackArn, Arn.parse d.stackId = .ok stackArn ∧ r = ⟨stackName, region, stackArn.account,
      Table.ofList (d.resources.map fun r => (r.logicalId, r)), none⟩ := by
  unfold ofDescription at h
  cases hparse : Arn.parse d.stackId with
  | error e => rw [hparse] at h; cases h
  | ok a =>
      rw [hparse] at h
      exact ⟨a, rfl, (Except.ok.inj h).symm⟩

/-- The registry with a manifest that translates constructs. -/
def withManifest (r : Registry) (m : Manifest) : Registry := { r with manifest := some m }

/-- The logical ID that an ID stands for: what the manifest records for it as a
construct of this stack, and otherwise the ID itself. -/
def translate (r : Registry) (id : String) : String :=
  ((r.manifest.bind (·.logicalId? r.stackName id)).getD id)

/-- The resource with an ID. -/
def lookup (r : Registry) (id : String) : Option Resource := r.table.get? (r.translate id)

/-- The event of a look-up: that the ID was translated, if it was. -/
def lookupEvents (r : Registry) (id : String) : List Log.Event :=
  if r.translate id = id then []
  else [⟨.debug, "stackprobe::stack::registry", "Translated construct ID",
    [("construct", .text id), ("logical_id", .text (r.translate id))]⟩]

/-- All resources in ascending order of their logical IDs. -/
def resources (r : Registry) : List Resource := r.table.values

@[simp] theorem resources_withManifest (r : Registry) (m : Manifest) :
    (r.withManifest m).resources = r.resources := rfl

end Registry

end StackPlaybook
