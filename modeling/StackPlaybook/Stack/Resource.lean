/-!
# StackPlaybook.Stack.Resource

Deployed stacks as a describe call reports them.
-/

namespace StackPlaybook

/-- One resource of a deployed stack. -/
structure Resource where
  logicalId : String
  physicalId : String
  /-- For instance `AWS::DynamoDB::Table`. -/
  resourceType : String
  deriving DecidableEq, Repr

/-- What a describe call returns about a stack: the ARN of the stack itself, from
which the account is read, and the resources that have a physical ID. -/
structure StackDescription where
  stackId : String
  resources : List Resource
  deriving DecidableEq, Repr

end StackPlaybook
