import StackPlaybook.Arn.Service
import StackPlaybook.Stack.Registry

/-!
# StackPlaybook.Stack.Target

What a scene acts on: a resource given by its ID in the stack, or by an ARN.  The
name and the ARN of a target are functions of the registry it is resolved in.
-/

namespace StackPlaybook

inductive Target where
  /-- Looked up in the registry at every use. -/
  | logicalId (id : String)
  /-- Resolved from its own text. -/
  | arn (arn : Arn)
  deriving DecidableEq

namespace Target

/-- The target of a text that must be an ARN. -/
def ofArn (text : String) : Except Error Target := (Arn.parse text).map .arn

/-- A text that starts with `arn:` must be an ARN; any other is an ID. -/
def parse (text : String) : Except Error Target :=
  if Text.startsWith text "arn:" then ofArn text else .ok (.logicalId text)

/-- The text of the target as it was given. -/
def text : Target → String
  | .logicalId id => id
  | .arn a => a.text

/-- The resource with an ID, which must be there. -/
def find (registry : Registry) (id : String) : Except Error Resource :=
  match registry.lookup id with
  | some r => .ok r
  | none => .error (.resourceNotFound id registry.stackName)

/-- The physical name of the resource. -/
def name (registry : Registry) : Target → Except Error String
  | .logicalId id => (find registry id).map (·.physicalId)
  | .arn a => .ok a.resourceName

/-- The ARN of a resource found under `id`: its physical ID if that is one, and
otherwise what its type, region and account make of it. -/
def arnOf (registry : Registry) (id : String) (r : Resource) : Except Error String :=
  if isArnShaped r.physicalId then .ok r.physicalId
  else match serviceHint? r.resourceType with
    | some hint => .ok (hint.synthesize registry.region registry.account r.physicalId)
    | none => .error (.unsupportedResourceType id r.resourceType)

/-- The ARN of the resource. -/
def arnText (registry : Registry) : Target → Except Error String
  | .logicalId id => (find registry id).bind (arnOf registry id)
  | .arn a => .ok a.text

/-- The events of resolving the target once. -/
def events (registry : Registry) : Target → List Log.Event
  | .logicalId id => registry.lookupEvents id
  | .arn _ => []

@[simp] theorem name_arn (registry : Registry) (a : Arn) :
    name registry (.arn a) = .ok a.resourceName := rfl

@[simp] theorem arnText_arn (registry : Registry) (a : Arn) :
    arnText registry (.arn a) = .ok a.text := rfl

/-! ## Failures -/

/-- A text is refused as a target for one reason only. -/
theorem invalidArn_of_parse {id : String} {e : Error} (h : parse id = .error e) :
    e = .invalidArn id (colonSegments id) := by
  unfold parse ofArn Arn.parse at h
  split at h
  · split at h
    · cases h
    · exact (Except.error.inj h).symm
  · cases h

section Registered

variable {registry : Registry} {id : String} {r : Resource} {e : Error}

/-- What is found is what the registry has under the ID. -/
theorem find_eq_ok_iff : find registry id = .ok r ↔ registry.lookup id = some r := by
  unfold find
  cases registry.lookup id <;> simp

/-- A resource that is not found is reported with its stack. -/
theorem find_eq_error_iff : find registry id = .error e ↔
    registry.lookup id = none ∧ e = .resourceNotFound id registry.stackName := by
  unfold find
  cases registry.lookup id <;> simp [eq_comm]

/-- A resource is refused an ARN just if its physical ID is not one and its type is unsupported. -/
theorem arnOf_eq_error_iff : arnOf registry id r = .error e ↔
    isArnShaped r.physicalId = false ∧ serviceHint? r.resourceType = none ∧
      e = .unsupportedResourceType id r.resourceType := by
  unfold arnOf
  cases isArnShaped r.physicalId <;> cases serviceHint? r.resourceType <;> simp [eq_comm]

end Registered

end Target

end StackPlaybook
