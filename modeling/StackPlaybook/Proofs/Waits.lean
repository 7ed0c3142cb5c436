import Mathlib.Algebra.Ring.Nat
import Mathlib.Logic.Function.Iterate
import StackPlaybook.Backoff

/-!
# StackPlaybook.Proofs.Waits

The waits that a timer has to give, one after the other: the first few of any timer, and
all that a finite timer has left.

A timer may also be asked when it has given up.  `answer` says what it answers at any call,
and `serve_own` that timers in use side by side answer as each would alone.
-/

namespace StackPlaybook

/-- The nanoseconds of several waits together. -/
def Duration.total (waits : List Duration) : Nat := (waits.map Duration.nanos).sum

namespace Timer

variable {τ : Type} [Timer τ]

/-- The first `k` waits that a timer gives, or all where there are fewer. -/
def firstWaits (k : Nat) (timer : τ) : List Duration :=
  match k with
  | 0 => []
  | k + 1 =>
    match Timer.next timer with
    | none => []
    | some (wait, timer) => wait :: firstWaits k timer

@[simp] theorem firstWaits_zero (timer : τ) : firstWaits 0 timer = [] := rfl

/-- The first wait is the next one of the timer, and the others are those of the rest. -/
theorem firstWaits_succ_of_some {timer timer' : τ} {wait : Duration} (k : Nat)
    (h : Timer.next timer = some (wait, timer')) :
    firstWaits (k + 1) timer = wait :: firstWaits k timer' := by
  rw [firstWaits, h]

/-! ## Calls -/

/-- What is left of a timer that was asked for a wait.  One that gives none stays as it is. -/
def left (timer : τ) : τ := (Timer.next timer).elim timer Prod.snd

/-- What a timer answers when it is asked for a wait after `n` other calls. -/
def answer (n : Nat) (timer : τ) : Option Duration := (Timer.next (left^[n] timer)).map Prod.fst

section Company

variable {ι : Type} [DecidableEq ι]

/-- What timers answer that are in use side by side: which of them is asked at each call, and
its answer. -/
def serve (timers : ι → τ) : List ι → List (ι × Option Duration)
  | [] => []
  | i :: calls =>
    (i, answer 0 (timers i)) :: serve (Function.update timers i (left (timers i))) calls

/-- **A timer answers as if it were alone**, whichever others are asked between its calls. -/
theorem serve_own (timers : ι → τ) (calls : List ι) (i : ι) :
    ((serve timers calls).filter (·.1 = i)).map Prod.snd =
      (List.range (calls.count i)).map fun n => answer n (timers i) := by
  induction calls generalizing timers with
  | nil => rfl
  | cons j calls ih =>
      by_cases hij : j = i
      · subst hij
        rw [serve, List.filter_cons_of_pos (by simp), List.map_cons, ih, List.count_cons_self,
          List.range_succ_eq_map, List.map_cons, List.map_map, Function.update_self]
        rfl
      · rw [serve, List.filter_cons_of_neg (by simpa using hij), ih,
          List.count_cons_of_ne hij, Function.update_of_ne (Ne.symm hij)]

end Company

end Timer

namespace FiniteTimer

variable {τ : Type} [FiniteTimer τ]

/-- The waits that a timer gives before it gives up. -/
def waits (timer : τ) : List Duration :=
  match _h : Timer.next timer with
  | none => []
  | some (wait, timer) => wait :: waits timer
termination_by budget timer
decreasing_by exact budget_lt (by assumption)

/-- A timer that gives no wait has none left. -/
theorem waits_of_none {timer : τ} (h : Timer.next timer = none) : waits timer = [] := by
  rw [waits]
  split
  · rfl
  · next wait timer' hsome => rw [h] at hsome; cases hsome

/-- A timer that gives a wait has that one left, and those of the rest. -/
theorem waits_of_some {timer timer' : τ} {wait : Duration}
    (h : Timer.next timer = some (wait, timer')) : waits timer = wait :: waits timer' := by
  rw [waits]
  split
  · next hnone => rw [h] at hnone; cases hnone
  · next wait' rest hsome => rw [h] at hsome; cases hsome; rfl

/-- A timer given by the list of its waits gives just those. -/
@[simp] theorem waits_list (ds : List Duration) : waits ds = ds := by
  induction ds with
  | nil => exact waits_of_none rfl
  | cons d ds ih =>
      have hnext : Timer.next (d :: ds) = some (d, ds) := rfl
      rw [waits_of_some hnext, ih]

end FiniteTimer

end StackPlaybook
