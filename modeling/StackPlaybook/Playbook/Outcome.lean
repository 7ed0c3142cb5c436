import StackPlaybook.Error

/-!
# StackPlaybook.Playbook.Outcome

What one attempt at a scene may answer when it does not fail outright.
-/

namespace StackPlaybook

inductive Outcome where
  /-- The scene is complete. -/
  | done
  /-- Nothing to be seen yet; try again after a wait. -/
  | pending
  /-- The attempt failed in a way that may clear up by itself. -/
  | retry (error : Error)
  deriving DecidableEq, Repr

namespace Outcome

def isDone : Outcome → Bool
  | .done => true
  | _ => false

/-- The error that the attempt ended with, where it is to be tried again for one. -/
def error? : Outcome → Option Error
  | .retry e => some e
  | _ => none

def ofBool (b : Bool) : Outcome := if b then .done else .pending

/-- A fatal error ends the playbook; any other is worth a retry. -/
def retryUnlessFatal (e : Error) : Except Error Outcome :=
  if e.isFatal then .error e else .ok (.retry e)

/-- A fatal error is the answer. -/
theorem retryUnlessFatal_of_fatal {e : Error} (h : e.isFatal = true) :
    retryUnlessFatal e = .error e := by simp [retryUnlessFatal, h]

/-- Any other error asks for another attempt. -/
theorem retryUnlessFatal_of_not_fatal {e : Error} (h : e.isFatal = false) :
    retryUnlessFatal e = .ok (.retry e) := by simp [retryUnlessFatal, h]

end Outcome

end StackPlaybook
