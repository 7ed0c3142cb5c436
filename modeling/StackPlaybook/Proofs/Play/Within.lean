import Mathlib.Data.Finset.Lattice.Fold
import StackPlaybook.Playbook.Play

/-!
# StackPlaybook.Proofs.Play.Within

Plays that are broken off when a scene has been attempted often enough, so that the
timers may be any.  A play with finite timers is one whose limit is never met; with
other timers the plays under growing limits are the course of a play for as long as one
likes to watch it:

* `playWithin_mono` — where a limit was not met, a higher one makes no difference;
* `playWithin_eq` — a limit beyond the budgets of all timers is not met;
* `exists_limit` — there always is such a limit.
-/

namespace StackPlaybook

/-- Why a play under a limit is over: it failed, or it was broken off. -/
inductive Halt where
  | failure (e : Error)
  | limit
  deriving DecidableEq, Repr

/-- The failure in a result. -/
def failure? {α : Type} : Except Error α → Option Error
  | .ok _ => none
  | .error e => some e

/-- What has a failure failed with it. -/
theorem eq_error_of_failure? {α : Type} {x : Except Error α} {e : Error} (h : failure? x = some e) :
    x = .error e := by
  cases x with
  | ok a => cases h
  | error f => rw [Option.some.inj h]

/-- What has none succeeded. -/
theorem exists_ok_of_failure? {α : Type} {x : Except Error α} (h : failure? x = none) :
    ∃ a, x = .ok a := by
  cases x with
  | ok a => exact ⟨a, rfl⟩
  | error f => cases h

/-- What an unlimited operation leaves, as one that was not broken off. -/
def unlimited {α σ : Type} (x : (Except Error Unit × α) × σ) : (Except Halt Unit × α) × σ :=
  ((x.1.1.mapError .failure, x.1.2), x.2)

theorem mapError_failure_inj {x y : Except Error Unit}
    (h : x.mapError Halt.failure = y.mapError .failure) : x = y := by
  cases x <;> cases y <;> simp_all [Except.mapError]

/-- What fails by itself was not broken off. -/
theorem mapError_failure_ne_limit (x : Except Error Unit) :
    x.mapError Halt.failure ≠ .error .limit := by
  cases x <;> simp [Except.mapError]

namespace Pacing

variable {S τ σ : Type} [Clock σ] [Playable S σ]

/-! ## Plays under a limit -/

section Limit

variable [Timer τ]

/-- Attempts a scene until it is over, but no more than `n` times after the first. -/
def persistWithin (p : Pacing τ σ) (registry : Registry) (step : StepInfo) (begun n : Nat)
    (scene : S) (timer : τ) (made : Nat) (last : Option Error) (s : σ) :
    (Except Halt Unit × S) × σ :=
  match p.turn registry step begun scene timer made last s with
  | ((.ended result, scene), s) => unlimited ((result, scene), s)
  | ((.again timer last, scene), s) =>
    match n with
    | 0 => ((.error .limit, scene), s)
    | n + 1 => p.persistWithin registry step begun n scene timer (made + 1) last s

/-- Plays the scene at a position under a limit. -/
def playSceneWithin (n : Nat) (p : Pacing τ σ) (registry : Registry) (total position : Nat)
    (scene : S) (s : σ) : (Except Halt Unit × S) × σ :=
  let step : StepInfo := ⟨position, total, Playable.label scene⟩
  let s := p.observe (.started step) s
  p.persistWithin registry step (Clock.now s) n scene (p.timer position) 0 none s

/-- Plays all scenes in order, up to the first failure or to the first scene that is
still not over after `n` attempts beyond its first. -/
def playWithin (n : Nat) (p : Pacing τ σ) (registry : Registry) (scenes : List S) (s : σ) :
    (Except Halt Unit × List S) × σ :=
  p.inOrder (p.playSceneWithin n registry scenes.length) 1 scenes s

end Limit

/-! ### What a turn leads to -/

section Equations

variable [Timer τ] {p : Pacing τ σ} {registry : Registry} {step : StepInfo} {begun made : Nat}
  {scene next : S} {timer rest : τ} {last last' : Option Error} {s t : σ}

/-- The turn that ends a scene ends it under any limit. -/
theorem persistWithin_of_ended (n : Nat) {result : Except Error Unit}
    (h : p.turn registry step begun scene timer made last s = ((.ended result, next), t)) :
    p.persistWithin registry step begun n scene timer made last s =
      unlimited ((result, next), t) := by
  rw [persistWithin, h]

theorem persistWithin_zero_of_again
    (h : p.turn registry step begun scene timer made last s = ((.again rest last', next), t)) :
    p.persistWithin registry step begun 0 scene timer made last s = ((.error .limit, next), t) := by
  rw [persistWithin, h]

/-- Otherwise it goes on, with one attempt less to be made. -/
theorem persistWithin_succ_of_again (n : Nat)
    (h : p.turn registry step begun scene timer made last s = ((.again rest last', next), t)) :
    p.persistWithin registry step begun (n + 1) scene timer made last s =
      p.persistWithin registry step begun n next rest (made + 1) last' t := by
  rw [persistWithin, h]

end Equations

/-! ## Higher limits -/

section Higher

variable [Timer τ]

/-- A scene that was not broken off goes the same way under a higher limit. -/
theorem persistWithin_mono (p : Pacing τ σ) (registry : Registry) (step : StepInfo) (begun : Nat)
    {n m : Nat} (scene : S) (timer : τ) (made : Nat) (last : Option Error) (s : σ)
    (hended : (p.persistWithin registry step begun n scene timer made last s).1.1 ≠ .error .limit)
    (hnm : n ≤ m) :
    p.persistWithin registry step begun m scene timer made last s =
      p.persistWithin registry step begun n scene timer made last s := by
  induction n generalizing m scene timer made last s with
  | zero =>
      rcases hturn : p.turn registry step begun scene timer made last s with ⟨⟨result, next⟩, t⟩
      cases result with
      | ended result => rw [persistWithin_of_ended m hturn, persistWithin_of_ended 0 hturn]
      | again rest last' =>
          rw [persistWithin_zero_of_again hturn] at hended
          exact absurd rfl hended
  | succ n ih =>
      rcases hturn : p.turn registry step begun scene timer made last s with ⟨⟨result, next⟩, t⟩
      cases result with
      | ended result => rw [persistWithin_of_ended m hturn, persistWithin_of_ended (n + 1) hturn]
      | again rest last' =>
          obtain ⟨m, rfl⟩ := Nat.exists_eq_succ_of_ne_zero (Nat.ne_zero_of_lt hnm)
          rw [persistWithin_succ_of_again n hturn] at hended
          rw [persistWithin_succ_of_again m hturn, persistWithin_succ_of_again n hturn]
          exact ih next rest (made + 1) last' t hended (Nat.le_of_succ_le_succ hnm)

omit [Timer τ] [Playable S σ] in
/-- Scenes in order that were not broken off come to the same under higher limits for each. -/
theorem inOrder_congr_of_ended (p : Pacing τ σ)
    {low high : Nat → S → σ → (Except Halt Unit × S) × σ}
    (h : ∀ position scene s, (low position scene s).1.1 ≠ .error .limit →
      high position scene s = low position scene s)
    (position : Nat) (scenes : List S) (s : σ)
    (hended : (p.inOrder low position scenes s).1.1 ≠ .error .limit) :
    p.inOrder high position scenes s = p.inOrder low position scenes s := by
  induction scenes generalizing position s with
  | nil => rfl
  | cons scene rest ih =>
      rcases hlow : low position scene s with ⟨⟨result, next⟩, t⟩
      have hhigh : (low position scene s).1.1 ≠ .error .limit → high position scene s =
          ((result, next), t) := fun hne => (h position scene s hne).trans hlow
      rw [hlow] at hhigh
      cases result with
      | error halt =>
          rw [inOrder_of_error rest hlow] at hended ⊢
          rw [inOrder_of_error rest (hhigh hended)]
      | ok u =>
          rw [inOrder_of_ok rest hlow] at hended ⊢
          rw [inOrder_of_ok rest (hhigh nofun)]
          rw [ih (position + 1) _ hended]

/-- Where a limit was not met, a higher one makes no difference. -/
theorem playWithin_mono (p : Pacing τ σ) (registry : Registry) {n m : Nat} (scenes : List S) (s : σ)
    (hended : (p.playWithin n registry scenes s).1.1 ≠ .error .limit) (hnm : n ≤ m) :
    p.playWithin m registry scenes s = p.playWithin n registry scenes s :=
  p.inOrder_congr_of_ended
    (fun _ scene _ hscene => p.persistWithin_mono registry _ _ scene _ 0 none _ hscene hnm)
    1 scenes s hended

end Higher

/-! ## Limits that are never met -/

variable [FiniteTimer τ]

/-- Under a limit beyond the budget of its timer a scene is not broken off. -/
theorem persistWithin_eq (p : Pacing τ σ) (registry : Registry) (step : StepInfo) (begun : Nat)
    {n : Nat} (scene : S) {timer : τ} (made : Nat) (last : Option Error) (s : σ)
    (hn : FiniteTimer.budget timer ≤ n) :
    p.persistWithin registry step begun n scene timer made last s =
      unlimited (p.persist registry step begun scene timer made last s) := by
  induction n generalizing scene timer made last s with
  | zero =>
      rcases hturn : p.turn registry step begun scene timer made last s with ⟨⟨result, next⟩, t⟩
      cases result with
      | ended result => rw [persistWithin_of_ended 0 hturn, persist_of_ended hturn]
      | again rest last' =>
          -- A timer without budget gives no wait, so it is not asked for a second attempt.
          obtain ⟨wait, hnext⟩ := next_of_turn hturn
          have := FiniteTimer.budget_lt hnext
          omega
  | succ n ih =>
      rcases hturn : p.turn registry step begun scene timer made last s with ⟨⟨result, next⟩, t⟩
      cases result with
      | ended result => rw [persistWithin_of_ended (n + 1) hturn, persist_of_ended hturn]
      | again rest last' =>
          obtain ⟨wait, hnext⟩ := next_of_turn hturn
          have hlt := FiniteTimer.budget_lt hnext
          rw [persistWithin_succ_of_again n hturn, persist_of_again hturn]
          exact ih next (made + 1) last' t (by omega)

/-- Nor is it when it is played from its beginning. -/
theorem playSceneWithin_eq (p : Pacing τ σ) (registry : Registry) {n : Nat} (total position : Nat)
    (scene : S) (s : σ) (hn : FiniteTimer.budget (p.timer position) ≤ n) :
    p.playSceneWithin n registry total position scene s =
      unlimited (p.playScene registry total position scene s) :=
  p.persistWithin_eq registry _ _ scene 0 none _ hn

omit [FiniteTimer τ] [Playable S σ] in
/-- Scenes in order none of which is broken off come to what they do without a limit. -/
theorem inOrder_unlimited (p : Pacing τ σ) {one : Nat → S → σ → (Except Error Unit × S) × σ}
    {within : Nat → S → σ → (Except Halt Unit × S) × σ} (scenes : List S) (position : Nat) (s : σ)
    (h : ∀ i scene s, position ≤ i → i < position + scenes.length →
      within i scene s = unlimited (one i scene s)) :
    p.inOrder within position scenes s = unlimited (p.inOrder one position scenes s) := by
  induction scenes generalizing position s with
  | nil => rfl
  | cons scene rest ih =>
      have hwithin := h position scene s (Nat.le_refl _) (by simp)
      rcases hone : one position scene s with ⟨⟨result, next⟩, t⟩
      rw [hone] at hwithin
      cases result with
      | error e => rw [inOrder_of_error rest hone, inOrder_of_error rest hwithin]; rfl
      | ok u =>
          have hrest : ∀ i scene s, position + 1 ≤ i → i < position + 1 + rest.length →
              within i scene s = unlimited (one i scene s) := fun i scene s hlo hhi =>
            h i scene s (by omega) (by simp only [List.length_cons]; omega)
          rw [inOrder_of_ok rest hone, inOrder_of_ok rest hwithin, ih (position + 1) _ hrest]
          rfl

/-- **A play** whose limit is beyond the budgets of all its timers is not broken off. -/
theorem playWithin_eq (p : Pacing τ σ) (registry : Registry) {n : Nat} (scenes : List S) (s : σ)
    (hn : ∀ position ≤ scenes.length, FiniteTimer.budget (p.timer position) ≤ n) :
    p.playWithin n registry scenes s = unlimited (p.play registry scenes s) :=
  p.inOrder_unlimited scenes 1 s fun i scene s _ hi =>
    p.playSceneWithin_eq registry _ i scene s (hn i (by omega))

/-- Finitely many timers have a common limit. -/
theorem exists_limit (timer : Nat → τ) (k : Nat) :
    ∃ n, ∀ position ≤ k, FiniteTimer.budget (timer position) ≤ n := by
  refine ⟨(Finset.range (k + 1)).sup fun i => FiniteTimer.budget (timer i), fun position hp => ?_⟩
  exact Finset.le_sup (f := fun i => FiniteTimer.budget (timer i))
    (Finset.mem_range.mpr (Nat.lt_succ_of_le hp))

end Pacing

end StackPlaybook
