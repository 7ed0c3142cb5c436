import StackPlaybook.Playbook.Play

/-!
# StackPlaybook.Playbook.Observer

What is done about the events of a play: writing log events, or a report for the
user.  Either way a wait before a retry is logged.
-/

namespace StackPlaybook.StepEvent

open Log (Datum)

variable {σ : Type} [Environment σ]

/-- The log event of a wait that is about to begin. -/
def waitEvent? : StepEvent → Option Log.Event
  | .asked step attempts (some wait) =>
    some ⟨.debug, "stackprobe::playbook::runner", "Waiting before retry",
      [("step", .text step.text), ("attempts", .number attempts),
       ("wait_ms", .number (wait.millis % 0x10000000000000000))]⟩
  | _ => none

def observerTarget : String := "stackprobe::playbook::observer"

/-- The log event of a step event. -/
def logEvent? : StepEvent → Option Log.Event
  | .started step =>
    some ⟨.info, observerTarget, "Scene started",
      [("position", .number step.position), ("total", .number step.total),
       ("label", .text step.label)]⟩
  | .attemptFailed step attempt error =>
    some ⟨.warn, observerTarget, "Scene attempt failed, will retry",
      [("position", .number step.position), ("label", .text step.label),
       ("attempt", .number attempt), ("error", .text error.message)]⟩
  | .finished step report none =>
    some ⟨.info, observerTarget, "Scene done",
      [("position", .number step.position), ("label", .text step.label),
       ("attempts", .number report.attempts),
       ("elapsed_ms", .number (report.elapsed / 1000000 % 0x10000000000000000))]⟩
  | .finished step report (some error) =>
    some ⟨.error, observerTarget, "Scene failed",
      [("position", .number step.position), ("label", .text step.label),
       ("attempts", .number report.attempts), ("error", .text error.message)]⟩
  | .asked .. => none

/-- The notice of a step event, with or without the details. -/
def notice? (verbose : Bool) : StepEvent → Option Notice
  | .started step => if verbose then some (.stepStarted step) else none
  | .attemptFailed step attempt error =>
    if verbose then some (.attemptFailed step attempt error) else none
  | .finished step report none => some (.stepDone step report.attempts)
  | .finished step _ (some error) => some (.stepFailed step error)
  | .asked .. => none

/-- Logs a wait, and nothing else. -/
def logWait (e : StepEvent) (s : σ) : σ := Environment.logAll e.waitEvent?.toList s

/-- Logs every event. -/
def trace (e : StepEvent) (s : σ) : σ := Environment.logAll e.logEvent?.toList (e.logWait s)

/-- Reports events to the user. -/
def report (verbose : Bool) (e : StepEvent) (s : σ) : σ :=
  let s := e.logWait s
  match e.notice? verbose with
  | some n => Environment.display n s
  | none => s

end StackPlaybook.StepEvent
