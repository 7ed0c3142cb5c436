import StackPlaybook.Backoff
import StackPlaybook.Environment
import StackPlaybook.Playbook.Outcome
import StackPlaybook.Stack.Registry

/-!
# StackPlaybook.Playbook.Play

Playing a list of scenes in order.  Each scene is attempted until it is done, fails
outright, or its timer gives no more waits; the first failure ends the play.

Nothing is assumed of scenes, observers and state beyond their types.  What one attempt
leads to is a `turn`, whatever the timer; the loop over turns ends because every wait
lowers the budget of a finite timer.
-/

namespace StackPlaybook

/-! ## Scenes and events -/

/-- Scenes `S` that act on a state `σ`.  An attempt may change the scene itself. -/
class Playable (S : Type) (σ : outParam Type) where
  label : S → String
  attempt : Registry → S → σ → (Except Error Outcome × S) × σ

/-- What a scene took: the attempts made, and the nanoseconds from its start. -/
structure StepReport where
  attempts : Nat
  elapsed : Nat
  deriving DecidableEq, Repr

/-- What happens in a play, in the order in which it happens. -/
inductive StepEvent where
  | started (step : StepInfo)
  /-- An attempt, counted from 1, ended with an error that may clear up. -/
  | attemptFailed (step : StepInfo) (attempt : Nat) (error : Error)
  /-- The timer was asked for a wait after so many attempts. -/
  | asked (step : StepInfo) (attempts : Nat) (answer : Option Duration)
  /-- The scene is over, with an error unless it completed. -/
  | finished (step : StepInfo) (report : StepReport) (error : Option Error)
  deriving DecidableEq, Repr

/-- How a playbook is paced and watched: the pause between scenes, the fresh timer of
the scene at a position, and what is done about each event. -/
structure Pacing (τ σ : Type) where
  interval : Duration
  timer : Nat → τ
  observe : StepEvent → σ → σ

/-- The pause between scenes unless another is given. -/
def defaultInterval : Duration := .ofSecs 2

namespace Pacing

variable {S τ σ : Type}

/-! ## One scene -/

/-- What an attempt and all that follows it come to: the scene is over, or it is
attempted again with what is left of its timer and the error to be remembered. -/
inductive Turn (τ : Type) where
  | ended (result : Except Error Unit)
  | again (timer : τ) (last : Option Error)

section Scene

variable [Clock σ] [Playable S σ]

/-- Reports the end of a scene that was begun at `begun`. -/
def finish (p : Pacing τ σ) (step : StepInfo) (begun attempts : Nat) (error : Option Error)
    (s : σ) : σ :=
  p.observe (.finished step ⟨attempts, Clock.now s - begun⟩ error) s

/-- Reports the error of an attempt that may be repeated. -/
def note (p : Pacing τ σ) (step : StepInfo) (attempt : Nat) (outcome : Outcome) (s : σ) : σ :=
  match outcome.error? with
  | some e => p.observe (.attemptFailed step attempt e) s
  | none => s

/-- One attempt at a scene, after `made` attempts whose most recent error is `last`, up
to the end of the scene or of the wait before the next attempt. -/
def turn [Timer τ] (p : Pacing τ σ) (registry : Registry) (step : StepInfo) (begun : Nat)
    (scene : S) (timer : τ) (made : Nat) (last : Option Error) (s : σ) : (Turn τ × S) × σ :=
  match Playable.attempt registry scene s with
  | ((.error e, scene), s) =>
    let failure := .stepFailed step e
    ((.ended (.error failure), scene), p.finish step begun (made + 1) (some failure) s)
  | ((.ok outcome, scene), s) =>
    if outcome.isDone then
      ((.ended (.ok ()), scene), p.finish step begun (made + 1) none s)
    else
      let s := p.note step (made + 1) outcome s
      let last := outcome.error?.or last
      match Timer.next timer with
      | none =>
        let s := p.observe (.asked step (made + 1) none) s
        let failure := .retryExhausted step (made + 1) (last.map (·.message))
        ((.ended (.error failure), scene), p.finish step begun (made + 1) (some failure) s)
      | some (wait, timer) =>
        let s := p.observe (.asked step (made + 1) (some wait)) s
        ((.again timer last, scene), Clock.sleep wait s)

/-- Another attempt is paid for with a wait of the timer. -/
theorem next_of_turn [Timer τ] {p : Pacing τ σ} {registry : Registry} {step : StepInfo}
    {begun made : Nat} {scene scene' : S} {timer timer' : τ} {last last' : Option Error} {s s' : σ}
    (h : p.turn registry step begun scene timer made last s = ((.again timer' last', scene'), s')) :
    ∃ wait, Timer.next timer = some (wait, timer') := by
  unfold turn at h
  split at h
  · cases h
  · split at h
    · cases h
    · cases hn : Timer.next timer with
      | none => rw [hn] at h; cases h
      | some given => rw [hn] at h; cases h; exact ⟨_, rfl⟩

variable [FiniteTimer τ]

/-- Attempts a scene until it is over, after `made` attempts whose most recent error
is `last`. -/
def persist (p : Pacing τ σ) (registry : Registry) (step : StepInfo) (begun : Nat)
    (scene : S) (timer : τ) (made : Nat) (last : Option Error) (s : σ) :
    (Except Error Unit × S) × σ :=
  match _h : p.turn registry step begun scene timer made last s with
  | ((.ended result, scene), s) => ((result, scene), s)
  | ((.again timer last, scene), s) => p.persist registry step begun scene timer (made + 1) last s
termination_by FiniteTimer.budget timer
decreasing_by exact FiniteTimer.budget_lt (next_of_turn (by assumption)).choose_spec

section Persist

variable {p : Pacing τ σ} {registry : Registry} {step : StepInfo} {begun made : Nat}
  {scene next : S} {timer rest : τ} {last last' : Option Error} {s t : σ}

/-- The turn that ends a scene gives its result. -/
theorem persist_of_ended {result : Except Error Unit}
    (h : p.turn registry step begun scene timer made last s = ((.ended result, next), t)) :
    p.persist registry step begun scene timer made last s = ((result, next), t) := by
  rw [persist, h]

/-- A turn that goes on leaves the rest to the loop, with one attempt more behind it. -/
theorem persist_of_again
    (h : p.turn registry step begun scene timer made last s = ((.again rest last', next), t)) :
    p.persist registry step begun scene timer made last s =
      p.persist registry step begun next rest (made + 1) last' t := by
  rw [persist, h]

end Persist

/-- Plays the scene at a position. -/
def playScene (p : Pacing τ σ) (registry : Registry) (total position : Nat) (scene : S) (s : σ) :
    (Except Error Unit × S) × σ :=
  let step : StepInfo := ⟨position, total, Playable.label scene⟩
  let s := p.observe (.started step) s
  p.persist registry step (Clock.now s) scene (p.timer position) 0 none s

end Scene

/-! ## All scenes -/

/-- Plays scenes from a position on, given how one scene is played.  The interval is
waited after a scene that completed, if another follows. -/
def inOrder [Clock σ] {ε : Type} (p : Pacing τ σ) (playOne : Nat → S → σ → (Except ε Unit × S) × σ)
    (position : Nat) : List S → σ → (Except ε Unit × List S) × σ
  | [], s => ((.ok (), []), s)
  | scene :: rest, s =>
    match playOne position scene s with
    | ((.error e, scene), s) => ((.error e, scene :: rest), s)
    | ((.ok (), scene), s) =>
      let s := if rest.isEmpty then s else Clock.sleep p.interval s
      let ((result, rest), s) := p.inOrder playOne (position + 1) rest s
      ((result, scene :: rest), s)

section InOrder

variable [Clock σ] {ε : Type} {p : Pacing τ σ} {playOne : Nat → S → σ → (Except ε Unit × S) × σ}
  {position : Nat} {scene next : S} {s t : σ}

/-- Nothing is played after a scene that fails. -/
theorem inOrder_of_error {e : ε} (rest : List S)
    (h : playOne position scene s = ((.error e, next), t)) :
    p.inOrder playOne position (scene :: rest) s = ((.error e, next :: rest), t) := by
  rw [inOrder, h]

/-- After a scene that completed, the others are played, with the interval before them if there
are any. -/
theorem inOrder_of_ok (rest : List S) (h : playOne position scene s = ((.ok (), next), t)) :
    p.inOrder playOne position (scene :: rest) s =
      let x := p.inOrder playOne (position + 1) rest
        (if rest.isEmpty then t else Clock.sleep p.interval t)
      ((x.1.1, next :: x.1.2), x.2) := by
  rw [inOrder, h]

end InOrder

variable [Clock σ] [FiniteTimer τ] [Playable S σ]

/-- Plays all scenes in order, up to the first failure. -/
def play (p : Pacing τ σ) (registry : Registry) (scenes : List S) (s : σ) :
    (Except Error Unit × List S) × σ :=
  p.inOrder (p.playScene registry scenes.length) 1 scenes s

/-- Plays on a thread that waits for the end.  That is refused where the thread
already serves a play: nothing is attempted then. -/
def playBlocking (p : Pacing τ σ) (registry : Registry) (scenes : List S) (busy : Bool) (s : σ) :
    (Except Error Unit × List S) × σ :=
  if busy then
    ((.error (.config "play_blocking called from within an async runtime; use play().await"),
      scenes), s)
  else p.play registry scenes s

end Pacing

end StackPlaybook
