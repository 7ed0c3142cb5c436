import StackPlaybook.Environment
import StackPlaybook.Json.Writer
import StackPlaybook.Playbook.Outcome
import StackPlaybook.Stack.Target

/-!
# StackPlaybook.Scene.Action

Scenes that act once: they publish, invoke, send, put, or run code of the user.  An
attempt resolves its target, performs the operation once, and hands the result to
the hook, if there is one; it is done after that, and every failure on the way is
final.
-/

namespace StackPlaybook.Scene

variable {σ : Type} [Environment σ]

def logTarget : String := "stackprobe::scenes::action"

/-- The physical name of a target. -/
def nameOf (registry : Registry) (target : Target) : Act σ String := do
  .change (Environment.logAll (target.events registry))
  .ofExcept (target.name registry)

/-- The ARN of a target. -/
def arnOf (registry : Registry) (target : Target) : Act σ String := do
  .change (Environment.logAll (target.events registry))
  .ofExcept (target.arnText registry)

/-- Naming a target logs the look-up and does nothing else. -/
theorem nameOf_apply (registry : Registry) (target : Target) (s : σ) :
    nameOf registry target s =
      (target.name registry, Environment.logAll (target.events registry) s) := rfl

/-- So does taking its ARN. -/
theorem arnOf_apply (registry : Registry) (target : Target) (s : σ) :
    arnOf registry target s =
      (target.arnText registry, Environment.logAll (target.events registry) s) := rfl

/-- Hands a result to a hook. -/
def callHook {α : Type} (hook : Option (α → Act σ Unit)) (result : α) : Act σ Unit :=
  match hook with
  | some f => f result
  | none => pure ()

/-- Resolves a target, performs an operation on what it resolves to, logs the event of
the result and hands the result to the hook. -/
def carryOut {ρ α : Type} (resolve : Act σ ρ) (operate : ρ → Act σ α) (event : ρ → α → Log.Event)
    (hook : Option (α → Act σ Unit)) : Act σ Outcome := do
  let target ← resolve
  let result ← operate target
  .change (Environment.log (event target result))
  callHook hook result
  return .done

/-! ## Free actions -/

/-- A step that runs code of the user. -/
structure AdLib (σ : Type) where
  label : String
  callback : Act σ Unit

def AdLib.attempt (a : AdLib σ) : Act σ Outcome := do
  a.callback
  return .done

/-! ## Publishing -/

/-- Publishes a message to a topic; the operation answers with a message ID. -/
structure Publish (σ : Type) where
  publish : (topicArn : String) → (message : Bytes) → Act σ String
  topic : Target
  message : Bytes
  hook : Option (String → Act σ Unit)

namespace Publish

def label (p : Publish σ) : String := "Publish message to " ++ p.topic.text

def published (topic id : String) : Log.Event :=
  ⟨.debug, logTarget, "Published message", [("topic", .text topic), ("message_id", .text id)]⟩

def attempt (p : Publish σ) (registry : Registry) : Act σ Outcome :=
  carryOut (arnOf registry p.topic) (p.publish · p.message) published p.hook

end Publish

/-! ## Invoking -/

/-- Invokes a function; the operation answers with the bytes of a response. -/
structure Invoke (σ : Type) where
  invoke : (functionArn : String) → (payload : Bytes) → Act σ Bytes
  function : Target
  payload : Bytes
  hook : Option (Bytes → Act σ Unit)

namespace Invoke

/-- The text sent for a value: a string as it is, anything else as JSON. -/
def messageText : Json.Value → String
  | .text s => s
  | v => v.compact

/-- The event by which a topic notifies a function of a message. -/
def topicEvent (message : Json.Value) : Json.Value :=
  .record [("Records", .list [.record
    [("EventSource", .text "aws:sns"), ("EventVersion", .text "1.0"),
     ("Sns", .record [("Message", .text (messageText message))])]])]

def label (i : Invoke σ) : String := "Invoke function " ++ i.function.text

def invoked (function : String) (response : Bytes) : Log.Event :=
  ⟨.debug, logTarget, "Function invoked",
    [("function", .text function), ("bytes", .number response.length)]⟩

def attempt (i : Invoke σ) (registry : Registry) : Act σ Outcome :=
  carryOut (arnOf registry i.function) (i.invoke · i.payload) invoked i.hook

end Invoke

/-! ## Sending -/

/-- Sends a message to a queue, which is named by its physical name; the operation
answers with a message ID. -/
structure SendMessage (σ : Type) where
  send : (queue body : String) → Act σ String
  queue : Target
  body : String
  hook : Option (String → Act σ Unit)

namespace SendMessage

def label (m : SendMessage σ) : String := "Send message to " ++ m.queue.text

def sent (queue id : String) : Log.Event :=
  ⟨.debug, logTarget, "Sent message", [("queue", .text queue), ("message_id", .text id)]⟩

def attempt (m : SendMessage σ) (registry : Registry) : Act σ Outcome :=
  carryOut (nameOf registry m.queue) (m.send · m.body) sent m.hook

end SendMessage

/-! ## Putting -/

/-- Puts a record on a stream, which is named by its physical name. -/
structure PutRecord (σ : Type) where
  put : (stream : String) → (data : Bytes) → Act σ Unit
  stream : Target
  data : Bytes

namespace PutRecord

def label (p : PutRecord σ) : String := "Put record to " ++ p.stream.text

def written (p : PutRecord σ) (stream : String) : Log.Event :=
  ⟨.debug, logTarget, "Put record", [("stream", .text stream), ("bytes", .number p.data.length)]⟩

def attempt (p : PutRecord σ) (registry : Registry) : Act σ Outcome :=
  carryOut (nameOf registry p.stream) (p.put · p.data) (fun stream _ => p.written stream) none

end PutRecord

/-! ## Pausing -/

/-- Waits for a fixed time. -/
structure Pause where
  duration : Duration

namespace Pause

def label (p : Pause) : String :=
  if p.duration.subsecNanos = 0 then "Pausing " ++ toString p.duration.secs ++ " seconds"
  else "Pausing " ++ p.duration.text

def attempt (p : Pause) : Act σ Outcome := do
  .change (Clock.sleep p.duration)
  return .done

end Pause

end StackPlaybook.Scene
