import Mathlib.Data.List.Forall2
import StackPlaybook.Proofs.Play.Within

/-!
# StackPlaybook.Proofs.Play.Simulation

Plays of related scenes on related states.  When attempts, observers and the clock keep
a relation between two kinds of states, so does a whole play, and its result is the
same on both sides.
-/

namespace StackPlaybook

variable {S S' τ σ σ' : Type}

/-- The same answer on both sides, with related scenes and related states. -/
structure Alike {α : Type} (Q : S → S' → Prop) (R : σ → σ' → Prop) (x : (α × S) × σ)
    (y : (α × S') × σ') : Prop where
  answer : x.1.1 = y.1.1
  scene : Q x.1.2 y.1.2
  state : R x.2 y.2

/-- Both sides taken apart. -/
theorem Alike.inv {α : Type} {Q : S → S' → Prop} {R : σ → σ' → Prop} {x : (α × S) × σ}
    {y : (α × S') × σ'} (h : Alike Q R x y) :
    ∃ answer next next' t t', x = ((answer, next), t) ∧ y = ((answer, next'), t') ∧
      Q next next' ∧ R t t' := by
  obtain ⟨⟨result, next⟩, t⟩ := x
  obtain ⟨⟨result', next'⟩, t'⟩ := y
  obtain ⟨hanswer, hscene, hstate⟩ := h
  obtain rfl : result = result' := hanswer
  exact ⟨result, next, next', t, t', rfl, rfl, hscene, hstate⟩

/-- Two pacings under which scenes related by `Q` cannot be told apart on states
related by `R`. -/
structure Simulation [Clock σ] [Clock σ'] [Playable S σ] [Playable S' σ'] (p : Pacing τ σ)
    (p' : Pacing τ σ') (registry : Registry) (Q : S → S' → Prop) (R : σ → σ' → Prop) : Prop where
  interval : p.interval = p'.interval
  timer : p.timer = p'.timer
  now {s s'} : R s s' → Clock.now s = Clock.now s'
  sleep {s s'} (d : Duration) : R s s' → R (Clock.sleep d s) (Clock.sleep d s')
  observe {s s'} (e : StepEvent) : R s s' → R (p.observe e s) (p'.observe e s')
  label {scene scene'} : Q scene scene' → Playable.label scene = Playable.label scene'
  attempt {scene scene' s s'} : Q scene scene' → R s s' →
    Alike Q R (Playable.attempt registry scene s) (Playable.attempt registry scene' s')

namespace Simulation

variable [Clock σ] [Clock σ'] [Playable S σ] [Playable S' σ'] {p : Pacing τ σ} {p' : Pacing τ σ'}
  {registry : Registry} {Q : S → S' → Prop} {R : σ → σ' → Prop}

/-! ## One scene -/

/-- Both sides report the same end of a scene. -/
theorem finish (h : Simulation p p' registry Q R) (step : StepInfo) (begun attempts : Nat)
    (error : Option Error) {s : σ} {s' : σ'} (hr : R s s') :
    R (p.finish step begun attempts error s) (p'.finish step begun attempts error s') := by
  unfold Pacing.finish
  rw [h.now hr]
  exact h.observe _ hr

/-- Both sides note the same error of an attempt. -/
theorem note (h : Simulation p p' registry Q R) (step : StepInfo) (attempt : Nat)
    (outcome : Outcome) {s : σ} {s' : σ'} (hr : R s s') :
    R (p.note step attempt outcome s) (p'.note step attempt outcome s') := by
  unfold Pacing.note
  cases outcome.error? with
  | none => exact hr
  | some e => exact h.observe _ hr

/-- **The step**: one attempt, and all that follows it, leads to the same on both sides. -/
theorem turn [Timer τ] (h : Simulation p p' registry Q R) (step : StepInfo) (begun : Nat)
    {scene : S} {scene' : S'} (timer : τ) (made : Nat) (last : Option Error) {s : σ} {s' : σ'}
    (hq : Q scene scene') (hr : R s s') :
    Alike Q R (p.turn registry step begun scene timer made last s)
      (p'.turn registry step begun scene' timer made last s') := by
  obtain ⟨result, next, next', t, t', hattempt, hattempt', hscene, hstate⟩ := (h.attempt hq hr).inv
  rw [Pacing.turn, Pacing.turn, hattempt, hattempt']
  cases result with
  | error e => exact ⟨rfl, hscene, h.finish _ _ _ _ hstate⟩
  | ok outcome =>
      simp only
      by_cases hd : outcome.isDone = true
      · rw [if_pos hd, if_pos hd]
        exact ⟨rfl, hscene, h.finish _ _ _ _ hstate⟩
      · rw [if_neg hd, if_neg hd]
        cases Timer.next timer with
        | none => exact ⟨rfl, hscene, h.finish _ _ _ _ (h.observe _ (h.note _ _ _ hstate))⟩
        | some given => exact ⟨rfl, hscene, h.sleep _ (h.observe _ (h.note _ _ _ hstate))⟩

/-- **The run**: a scene is attempted as often on both sides, with the same end. -/
theorem persistWithin [Timer τ] (h : Simulation p p' registry Q R) (step : StepInfo)
    (begun n : Nat) {scene : S} {scene' : S'} (timer : τ) (made : Nat) (last : Option Error)
    {s : σ} {s' : σ'} (hq : Q scene scene') (hr : R s s') :
    Alike Q R (p.persistWithin registry step begun n scene timer made last s)
      (p'.persistWithin registry step begun n scene' timer made last s') := by
  induction n generalizing scene scene' timer made last s s' with
  | zero =>
      obtain ⟨result, next, next', t, t', hturn, hturn', hscene, hstate⟩ :=
        (h.turn step begun timer made last hq hr).inv
      cases result with
      | ended result =>
          rw [Pacing.persistWithin_of_ended 0 hturn, Pacing.persistWithin_of_ended 0 hturn']
          exact ⟨rfl, hscene, hstate⟩
      | again rest last' =>
          rw [Pacing.persistWithin_zero_of_again hturn, Pacing.persistWithin_zero_of_again hturn']
          exact ⟨rfl, hscene, hstate⟩
  | succ n ih =>
      obtain ⟨result, next, next', t, t', hturn, hturn', hscene, hstate⟩ :=
        (h.turn step begun timer made last hq hr).inv
      cases result with
      | ended result =>
          rw [Pacing.persistWithin_of_ended (n + 1) hturn,
            Pacing.persistWithin_of_ended (n + 1) hturn']
          exact ⟨rfl, hscene, hstate⟩
      | again rest last' =>
          rw [Pacing.persistWithin_succ_of_again n hturn,
            Pacing.persistWithin_succ_of_again n hturn']
          exact ih rest (made + 1) last' hscene hstate

/-- A scene begins at the same time on both sides and takes the same course. -/
theorem playSceneWithin [Timer τ] (h : Simulation p p' registry Q R) (n total position : Nat)
    {scene : S} {scene' : S'} {s : σ} {s' : σ'} (hq : Q scene scene') (hr : R s s') :
    Alike Q R (p.playSceneWithin n registry total position scene s)
      (p'.playSceneWithin n registry total position scene' s') := by
  unfold Pacing.playSceneWithin
  have hstart := h.observe (.started ⟨position, total, Playable.label scene⟩) hr
  simp only [← h.label hq, ← h.timer, ← h.now hstart]
  exact h.persistWithin _ _ _ _ _ _ hq hstart

/-! ## All scenes -/

/-- Scenes in order come to the same, if each of them does. -/
theorem inOrder {ε : Type} (h : Simulation p p' registry Q R)
    {one : Nat → S → σ → (Except ε Unit × S) × σ} {one' : Nat → S' → σ' → (Except ε Unit × S') × σ'}
    (hone : ∀ position {scene scene' s s'}, Q scene scene' → R s s' →
      Alike Q R (one position scene s) (one' position scene' s'))
    (position : Nat) {scenes : List S} {scenes' : List S'} {s : σ} {s' : σ'}
    (hq : List.Forall₂ Q scenes scenes') (hr : R s s') :
    Alike (List.Forall₂ Q) R (p.inOrder one position scenes s)
      (p'.inOrder one' position scenes' s') := by
  induction hq generalizing position s s' with
  | nil => exact ⟨rfl, .nil, hr⟩
  | @cons scene scene' rest rest' hscene hrest ih =>
      obtain ⟨result, next, next', t, t', hplay, hplay', hnext, hstate⟩ :=
        (hone position hscene hr).inv
      cases result with
      | error e =>
          rw [Pacing.inOrder_of_error rest hplay, Pacing.inOrder_of_error rest' hplay']
          exact ⟨rfl, .cons hnext hrest, hstate⟩
      | ok u =>
          have hempty : rest'.isEmpty = rest.isEmpty := by cases hrest <;> rfl
          have hpause : R (if rest.isEmpty then t else Clock.sleep p.interval t)
              (if rest'.isEmpty then t' else Clock.sleep p'.interval t') := by
            rw [hempty, ← h.interval]
            split
            · exact hstate
            · exact h.sleep _ hstate
          obtain ⟨hresult, hscenes, hend⟩ := ih (position + 1) hpause
          rw [Pacing.inOrder_of_ok rest hplay, Pacing.inOrder_of_ok rest' hplay']
          exact ⟨hresult, .cons hnext hscenes, hend⟩

/-- **Plays under a limit** cannot be told apart by their results. -/
theorem playWithin [Timer τ] (h : Simulation p p' registry Q R) (n : Nat) {scenes : List S}
    {scenes' : List S'} {s : σ} {s' : σ'} (hq : List.Forall₂ Q scenes scenes') (hr : R s s') :
    Alike (List.Forall₂ Q) R (p.playWithin n registry scenes s)
      (p'.playWithin n registry scenes' s') := by
  unfold Pacing.playWithin
  rw [← hq.length_eq]
  exact h.inOrder (h.playSceneWithin n _) 1 hq hr

/-- **Plays** cannot be told apart either: their limit is one that is never met. -/
theorem play [FiniteTimer τ] (h : Simulation p p' registry Q R) {scenes : List S}
    {scenes' : List S'} {s : σ} {s' : σ'} (hq : List.Forall₂ Q scenes scenes') (hr : R s s') :
    Alike (List.Forall₂ Q) R (p.play registry scenes s) (p'.play registry scenes' s') := by
  obtain ⟨n, hn⟩ := Pacing.exists_limit p.timer scenes.length
  have hn' : ∀ position ≤ scenes'.length, FiniteTimer.budget (p'.timer position) ≤ n := by
    rw [← hq.length_eq, ← h.timer]
    exact hn
  obtain ⟨hanswer, hscenes, hstate⟩ := h.playWithin n hq hr
  rw [p.playWithin_eq registry scenes s hn, p'.playWithin_eq registry scenes' s' hn'] at *
  exact ⟨mapError_failure_inj hanswer, hscenes, hstate⟩

end Simulation

end StackPlaybook
