/-!
# StackPlaybook.Step

The place of a scene in its playbook, as it is shown in reports and errors.
-/

namespace StackPlaybook

/-- Position (from 1) and label of a scene in a playbook of `total` scenes. -/
structure StepInfo where
  position : Nat
  total : Nat
  label : String
  deriving DecidableEq, Repr, Inhabited

/-- A step is shown as `[position/total] label`. -/
def StepInfo.text (s : StepInfo) : String :=
  "[" ++ toString s.position ++ "/" ++ toString s.total ++ "] " ++ s.label

end StackPlaybook
