import StackPlaybook.Arn

/-!
# StackPlaybook.Arn.Service

The resource types for which an ARN can be written down from the physical ID, the
region and the account.
-/

namespace StackPlaybook

/-- How the resources of one type are named: their service, and what stands before
the name in the last part of the ARN. -/
structure ServiceHint where
  service : String
  lead : String
  deriving DecidableEq, Repr

/-- The service of each supported resource type. -/
def serviceTable : List (String × ServiceHint) :=
  [("AWS::Lambda::Function", ⟨"lambda", "function:"⟩),
   ("AWS::SNS::Topic", ⟨"sns", ""⟩),
   ("AWS::SQS::Queue", ⟨"sqs", ""⟩),
   ("AWS::DynamoDB::Table", ⟨"dynamodb", "table/"⟩),
   ("AWS::Kinesis::Stream", ⟨"kinesis", "stream/"⟩)]

/-- The hint for a resource type, if the type is supported. -/
def serviceHint? (resourceType : String) : Option ServiceHint := serviceTable.lookup resourceType

namespace ServiceHint

/-- Whether a physical ID is a web address. -/
def isUrl (physicalId : List Char) : Bool :=
  "https://".toList.isPrefixOf physicalId || "http://".toList.isPrefixOf physicalId

/-- The part after the last `/`, not counting slashes at the very end. -/
def lastPathSegment (physicalId : List Char) : List Char :=
  (Text.splitAt '/' (physicalId.reverse.dropWhile (· == '/')).reverse).getLastD []

/-- The name of a resource: its physical ID, or the last path segment of a web
address. -/
def resourceOf (physicalId : String) : String :=
  if isUrl physicalId.toList then String.ofList (lastPathSegment physicalId.toList)
  else physicalId

/-- Writes `arn:aws:<service>:<region>:<account>:<lead><name>`. -/
def synthesize (hint : ServiceHint) (region account physicalId : String) : String :=
  "arn:aws:" ++ hint.service ++ ":" ++ region ++ ":" ++ account ++ ":" ++ hint.lead ++
    resourceOf physicalId

end ServiceHint

end StackPlaybook
