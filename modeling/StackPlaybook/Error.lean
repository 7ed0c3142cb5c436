import StackPlaybook.Step

/-!
# StackPlaybook.Error

Every way in which reading, resolving or playing can fail.  `Error.message` is the
text a user sees; `Error.isFatal` tells the mistakes that no retry can mend from
the failures that a poll may wait out.
-/

namespace StackPlaybook

inductive Error where
  /-- The stack is not there in that region. -/
  | stackNotFound (stack region : String)
  /-- The stack could not be described. -/
  | stackDescribe (stack message : String)
  /-- The stack has no such resource. -/
  | resourceNotFound (logicalId stack : String)
  /-- The resource has a type for which no ARN can be built. -/
  | unsupportedResourceType (logicalId resourceType : String)
  /-- The text has too few or too many segments to be an ARN. -/
  | invalidArn (arn : String) (segments : Nat)
  | manifestParse (message : String)
  /-- An operation on a resource, or a command, did not succeed. -/
  | operation (name message : String)
  | assertion (message : String)
  /-- A scene failed outright. -/
  | stepFailed (step : StepInfo) (source : Error)
  /-- A scene was still not done when its timer gave no more waits. -/
  | retryExhausted (step : StepInfo) (attempts : Nat) (lastError : Option String)
  | config (message : String)
  | configParse (message : String)
  | io (message : String)
  | fileRead (path reason : String)
  /-- A text that should be JSON is not. -/
  | json
  deriving DecidableEq, Repr, Inhabited

namespace Error

/-- What is said of a document that its format does not allow.  The place and
nature of the mistake are not part of a message. -/
def unreadable : String := "<parser>"

/-- The text shown to the user. -/
def message : Error → String
  | .stackNotFound stack region =>
    "Stack '" ++ stack ++ "' does not exist in region '" ++ region ++ "'"
  | .stackDescribe stack message => "Failed to describe stack '" ++ stack ++ "': " ++ message
  | .resourceNotFound logicalId stack =>
    "Resource '" ++ logicalId ++ "' not found in stack '" ++ stack ++ "'"
  | .unsupportedResourceType logicalId resourceType =>
    "Resource '" ++ logicalId ++ "' has unsupported type '" ++ resourceType ++ "'"
  | .invalidArn arn segments =>
    "Invalid ARN '" ++ arn ++ "': expected 6 to 8 ':'-separated segments, got " ++ toString segments
  | .manifestParse message => "Invalid CDK manifest: " ++ message
  | .operation name message => name ++ " failed: " ++ message
  | .assertion message => "Assertion failed: " ++ message
  | .stepFailed step source => "Failed playbook step " ++ step.text ++ ": " ++ source.message
  | .retryExhausted step attempts lastError =>
    "Retry limit exceeded at step " ++ step.text ++ " after " ++ toString attempts ++ " attempts" ++
      match lastError with
      | some e => " (last error: " ++ e ++ ")"
      | none => ""
  | .config message => "Configuration error: " ++ message
  | .configParse message => "Invalid configuration file: " ++ message
  | .io message => "IO error: " ++ message
  | .fileRead path reason => "Failed to read file '" ++ path ++ "': " ++ reason
  | .json => "JSON error: " ++ unreadable

/-- Whether retrying cannot possibly help; a failed step is as fatal as its cause. -/
def isFatal : Error → Bool
  | .stackNotFound .. | .unsupportedResourceType .. | .invalidArn .. | .manifestParse ..
  | .config .. | .configParse .. | .fileRead .. => true
  | .stepFailed _ source => source.isFatal
  | _ => false

/-- Whether a step never succeeded within its retries, as opposed to failing outright. -/
def isRetryExhausted : Error → Bool
  | .retryExhausted .. => true
  | _ => false

/-- The step that the error is attached to. -/
def step? : Error → Option StepInfo
  | .stepFailed step _ | .retryExhausted step _ _ => some step
  | _ => none

/-- The text of the cause that the error wraps. -/
def source? : Error → Option String
  | .stepFailed _ source => some source.message
  | .io message => some message
  | .json => some unreadable
  | _ => none

end Error

end StackPlaybook
