import StackPlaybook.Proofs.Play.Passage

/-!
# StackPlaybook.Proofs.Play.Budget

How often scenes can be attempted, whatever they do.  Every attempt after the first is paid
for with a wait, and waits come out of the budget of a timer.

* `Course.length_attempts_le` — a scene is attempted at most once more than its timer has budget;
* `Courses.length_attempts_le` — so with a common limit to all budgets, scenes are attempted at
  most that often each;
* `bounded_play` — which holds of whole plays, and the play ends within those attempts.
-/

namespace StackPlaybook

variable {S τ σ : Type} [Playable S σ]

variable [FiniteTimer τ] {registry : Registry} {entries : List (Entry S σ)}
  {result : Except Halt Unit}

/-! ## Scenes -/

/-- **A scene** is attempted at most once more than its timer can be asked for a wait. -/
theorem Course.length_attempts_le {step : StepInfo} {scene : S} {timer : τ} {made : Nat}
    {last : Option Error} (h : Course registry step scene timer made last entries result) :
    (entries.filterMap Entry.attempt?).length ≤ FiniteTimer.budget timer + 1 := by
  induction h with
  | ended move =>
      rw [move.attempts]
      exact Nat.le_add_left 1 _
  | limit move =>
      rw [move.attempts]
      exact Nat.le_add_left 1 _
  | again move rest ih =>
      rw [List.filterMap_append, move.attempts, List.length_append,
        List.length_singleton]
      cases move with
      | again answer isDone next =>
          have hpaid := FiniteTimer.budget_lt next
          omega

/-- **Scenes in order** are attempted at most so often each, and together. -/
theorem Courses.length_attempts_le {total position limit : Nat} {timer : Nat → τ} {scenes : List S}
    (h : Courses registry total timer position scenes entries result)
    (hlimit : ∀ i, FiniteTimer.budget (timer i) ≤ limit) :
    (entries.filterMap Entry.attempt?).length ≤ scenes.length * (limit + 1) := by
  induction h with
  | nil => exact Nat.zero_le _
  | @stop position scene rest entries halt course =>
      have hown := course.length_attempts_le
      have hbudget := hlimit position
      rw [List.length_cons, Nat.succ_mul]
      exact Nat.le_trans hown (by omega)
  | @next position scene rest entries more result course others ih =>
      have hown := course.length_attempts_le
      have hbudget := hlimit position
      rw [List.filterMap_append, List.length_append, List.length_cons, Nat.succ_mul]
      exact Nat.le_trans (Nat.add_le_add_right hown _) (by omega)

/-- **The scene at an index** is attempted at most once more than its own timer has budget. -/
theorem Courses.length_attempts_at_le {total position : Nat} {timer : Nat → τ} {scenes : List S}
    (h : Courses registry total timer position scenes entries result) {i : Nat} {scene : S}
    (hscene : scenes[i]? = some scene) :
    ((entries.filterMap Entry.attempt?).filter fun a => a.position = i + position).length ≤
      FiniteTimer.budget (timer (i + position)) + 1 := by
  rw [Entry.attempts_about]
  obtain ⟨hskipped, -⟩ | ⟨own, ended, hcourse, habout, -⟩ := passage_of_courses h hscene
  · rw [hskipped]
    exact Nat.zero_le _
  · rw [habout]
    exact hcourse.length_attempts_le

/-! ## Plays -/

namespace Pacing

variable [Clock σ]

/-- A play that ends after at most so many attempts beyond the first at each scene. -/
structure Bounded (p : Pacing τ σ) (registry : Registry) (scenes : List S) (s : σ)
    (limit : Nat) : Prop where
  /-- Breaking scenes off after that many more attempts changes nothing. -/
  ends : p.playWithin limit registry scenes s = unlimited (p.play registry scenes s)
  each : ∀ i scene, scenes[i]? = some scene →
    (((p.chronicle registry scenes s).filterMap Entry.attempt?).filter fun a =>
      a.position = i + 1).length ≤ limit + 1
  total : ((p.chronicle registry scenes s).filterMap Entry.attempt?).length ≤
    scenes.length * (limit + 1)

/-- **Every play is bounded** by the budgets of its timers, whatever its scenes do. -/
theorem bounded_play (p : Pacing τ σ) (registry : Registry) (scenes : List S) (s : σ) {limit : Nat}
    (hlimit : ∀ i, FiniteTimer.budget (p.timer i) ≤ limit) : p.Bounded registry scenes s limit where
  ends := p.playWithin_eq registry scenes s fun i _ => hlimit i
  each i scene hscene := by
    have hcourses := p.courses_of_play registry scenes s
    exact Nat.le_trans (hcourses.length_attempts_at_le hscene) (Nat.succ_le_succ (hlimit _))
  total := (p.courses_of_play registry scenes s).length_attempts_le hlimit

end Pacing

end StackPlaybook
