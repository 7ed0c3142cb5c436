import StackPlaybook.Playbook.Run
import StackPlaybook.Proofs.Play.Simulation

/-!
# StackPlaybook.Proofs.Run.Steps

The scenes that steps of a playbook file stand for.  Whether a step is bad does not depend
on where its scene is to be played (`PlaybookStep.flaw?`), and neither does what a good one
does: on related states the scenes of a step do the same (`Kin.alike_attempt`), so a play
of the steps of a file does (`Kin.simulation`).

The relation may be one between a run with details and a run without: a state may lack the
details that the other one shows.
-/

namespace StackPlaybook

open Scene

variable {σ σ' α β : Type}

/-! ## Operations that agree -/

/-- Two operations that answer alike on related states, and keep them related. -/
def Agrees (R : σ → σ' → Prop) (f : σ → α × σ) (f' : σ' → α × σ') : Prop :=
  ∀ s s', R s s' → (f s).1 = (f' s').1 ∧ R (f s).2 (f' s').2

namespace Agrees

variable {R : σ → σ' → Prop}

theorem change {f : σ → σ} {f' : σ' → σ'} (h : ∀ {s s'}, R s s' → R (f s) (f' s')) :
    Agrees R (Act.change f) (Act.change f') := fun _ _ hr => ⟨rfl, h hr⟩

theorem ofExcept (x : Except Error α) :
    Agrees R (Act.ofExcept x : Act σ α) (Act.ofExcept x : Act σ' α) := fun _ _ hr => ⟨rfl, hr⟩

theorem pure (x : α) : Agrees R (Pure.pure x : Act σ α) (Pure.pure x : Act σ' α) :=
  fun _ _ hr => ⟨rfl, hr⟩

theorem bind {a : Act σ α} {a' : Act σ' α} {f : α → Act σ β} {f' : α → Act σ' β}
    (ha : Agrees R a a') (hf : ∀ x, Agrees R (f x) (f' x)) :
    Agrees R (a >>= f : Act σ β) (a' >>= f' : Act σ' β) := by
  intro s s' hr
  obtain ⟨hanswer, hstate⟩ := ha s s' hr
  rw [Act.bind_apply, Act.bind_apply]
  rcases hs : a s with ⟨x, t⟩
  rcases hs' : a' s' with ⟨x', t'⟩
  rw [hs, hs'] at hanswer hstate
  obtain rfl : x = x' := hanswer
  cases x with
  | error e => exact ⟨rfl, hstate⟩
  | ok x => exact hf x t t' hstate

/-- Turning errors into retries keeps agreement. -/
theorem absorb {a : Act σ Outcome} {a' : Act σ' Outcome} (h : Agrees R a a') :
    Agrees R (Scene.absorb a) (Scene.absorb a') := by
  intro s s' hr
  obtain ⟨hanswer, hstate⟩ := h s s' hr
  unfold Scene.absorb
  rcases hs : a s with ⟨x, t⟩
  rcases hs' : a' s' with ⟨x', t'⟩
  rw [hs, hs'] at hanswer hstate
  obtain rfl : x = x' := hanswer
  cases x with
  | error e => exact ⟨rfl, hstate⟩
  | ok x => exact ⟨rfl, hstate⟩

end Agrees

/-! ## Bad steps -/

namespace PlaybookStep

/-- What is wrong with a step, if its command or target is bad. -/
def flaw? : PlaybookStep → Option Error
  | .shell command => failure? (Template.parse command)
  | .pause _ => none
  | .poll command _ => failure? (Template.parse command)
  | .resolve target => failure? (Target.parse target)

/-- The first bad step of a list: its index, and what is wrong with it. -/
structure FirstFlaw (steps : List PlaybookStep) (i : Nat) (e : Error) : Prop where
  flaw : steps[i]?.bind flaw? = some e
  sound_before : ∀ step ∈ steps.take i, step.flaw? = none

/-- Either all steps of a list are good or one is the first bad step. -/
theorem sound_or_firstFlaw (steps : List PlaybookStep) :
    (∀ step ∈ steps, step.flaw? = none) ∨ ∃ i e, FirstFlaw steps i e := by
  induction steps with
  | nil => exact .inl fun step hstep => absurd hstep List.not_mem_nil
  | cons step steps ih =>
      cases hflaw : step.flaw? with
      | some e => exact .inr ⟨0, e, hflaw, fun other hother => absurd hother List.not_mem_nil⟩
      | none =>
          obtain hsound | ⟨i, e, hflaw', hbefore⟩ := ih
          · exact .inl (List.forall_mem_cons.mpr ⟨hflaw, hsound⟩)
          · exact .inr ⟨i + 1, e, hflaw', List.forall_mem_cons.mpr ⟨hflaw, hbefore⟩⟩

/-- A bad step has no scene. -/
theorem scene_of_flaw (verbose : Bool) {step : PlaybookStep} {e : Error}
    (h : step.flaw? = some e) : (step.scene verbose : Except Error (Scene σ)) = .error e := by
  cases step with
  | shell command => rw [scene, eq_error_of_failure? h]; rfl
  | pause seconds => cases h
  | poll command expect => rw [scene, eq_error_of_failure? h]; rfl
  | resolve target => rw [scene, eq_error_of_failure? h]; rfl

end PlaybookStep

/-! ## Scenes of steps -/

/-- The scenes of one step, with and without details. -/
inductive Twin (verbose verbose' : Bool) : Scene σ → Scene σ' → Prop where
  | shell (command : Template) :
      Twin verbose verbose' (.shell ⟨command, verbose⟩) (.shell ⟨command, verbose'⟩)
  | pause (p : Pause) : Twin verbose verbose' (.pause p) (.pause p)
  | shellPoll (p : ShellPoll) : Twin verbose verbose' (.shellPoll p) (.shellPoll p)
  | resolve (target : Target) :
      Twin verbose verbose' (.resolve ⟨target, verbose⟩) (.resolve ⟨target, verbose'⟩)

namespace PlaybookStep

variable (verbose verbose' : Bool)

/-- A good step has a scene with details and one without, and these are twins. -/
theorem scene_of_sound {step : PlaybookStep} (h : step.flaw? = none) :
    ∃ (q : Scene σ) (q' : Scene σ'), step.scene verbose = .ok q ∧ step.scene verbose' = .ok q' ∧
      Twin verbose verbose' q q' := by
  cases step with
  | shell command =>
      obtain ⟨t, ht⟩ := exists_ok_of_failure? h
      simp only [scene, ht]
      exact ⟨_, _, rfl, rfl, .shell t⟩
  | pause seconds => exact ⟨_, _, rfl, rfl, .pause _⟩
  | poll command expect =>
      obtain ⟨t, ht⟩ := exists_ok_of_failure? h
      simp only [scene, ht]
      exact ⟨_, _, rfl, rfl, .shellPoll _⟩
  | resolve target =>
      obtain ⟨t, ht⟩ := exists_ok_of_failure? h
      simp only [scene, ht]
      exact ⟨_, _, rfl, rfl, .resolve t⟩

/-- A file is refused for its first bad step. -/
theorem scenesFrom_of_firstFlaw {steps : List PlaybookStep} {i : Nat} {e : Error}
    (h : FirstFlaw steps i e) (position : Nat) :
    (scenesFrom verbose position steps : Except Error (List (Scene σ))) =
      .error (complaint (i + position) e) := by
  induction steps generalizing i position with
  | nil => cases h.flaw
  | cons step steps ih =>
      rw [scenesFrom]
      cases i with
      | zero =>
          rw [scene_of_flaw verbose h.flaw, Nat.zero_add]
      | succ i =>
          obtain ⟨hsound, hbefore⟩ := List.forall_mem_cons.mp h.sound_before
          obtain ⟨q, -, hq, -, -⟩ := @scene_of_sound σ σ verbose verbose step hsound
          rw [hq]
          simp only
          rw [ih ⟨h.flaw, hbefore⟩ (position + 1), Nat.succ_add_eq_add_succ]
          rfl

/-- Good steps have scenes with details and without, twin by twin, wherever they are to be played.
-/
theorem scenesFrom_of_sound {steps : List PlaybookStep} (h : ∀ step ∈ steps, step.flaw? = none)
    (position : Nat) :
    ∃ (scenes : List (Scene σ)) (scenes' : List (Scene σ')),
      scenesFrom verbose position steps = .ok scenes ∧
      scenesFrom verbose' position steps = .ok scenes' ∧
      List.Forall₂ (Twin verbose verbose') scenes scenes' := by
  induction steps generalizing position with
  | nil => exact ⟨[], [], rfl, rfl, .nil⟩
  | cons step steps ih =>
      obtain ⟨hstep, hrest⟩ := List.forall_mem_cons.mp h
      obtain ⟨q, q', hq, hq', htwin⟩ := @scene_of_sound σ σ' verbose verbose' step hstep
      obtain ⟨scenes, scenes', hscenes, hscenes', htwins⟩ := ih hrest (position + 1)
      refine ⟨q :: scenes, q' :: scenes', ?_, ?_, .cons htwin htwins⟩
      · rw [scenesFrom, hq, hscenes]
        rfl
      · rw [scenesFrom, hq', hscenes']
        rfl

end PlaybookStep

/-! ## Playing steps -/

/-- Environments in which the steps of a file cannot be told apart when one shows details
and the other does not, or both do: reading the clock, waiting, running commands, logging
and showing keep the relation. -/
structure Kin [Environment σ] [Environment σ'] (R : σ → σ' → Prop) (verbose verbose' : Bool) :
    Prop where
  now {s s'} : R s s' → Clock.now s = Clock.now s'
  sleep {s s'} (d : Duration) : R s s' → R (Clock.sleep d s) (Clock.sleep d s')
  shell (command : String) :
    Agrees R (Host.spawn "sh" ["-c", command]) (Host.spawn "sh" ["-c", command])
  log {s s'} (e : Log.Event) : R s s' → R (Environment.log e s) (Environment.log e s')
  display {s s'} {n : Notice} : n.isDetail = false → R s s' →
    R (Environment.display n s) (Environment.display n s')
  detail {s s'} {n : Notice} : n.isDetail = true → R s s' →
    R (if verbose then Environment.display n s else s)
      (if verbose' then Environment.display n s' else s')

namespace Kin

variable [Environment σ] [Environment σ'] {R : σ → σ' → Prop} {verbose verbose' : Bool}

/-- Logging keeps the relation, event by event. -/
theorem logAll (h : Kin R verbose verbose') (events : List Log.Event) {s : σ} {s' : σ'}
    (hr : R s s') : R (Environment.logAll events s) (Environment.logAll events s') := by
  unfold Environment.logAll
  induction events generalizing s s' with
  | nil => exact hr
  | cons e events ih => exact ih (h.log e hr)

/-- Rendering depends on the registry only. -/
theorem renderText (h : Kin R verbose verbose') (registry : Registry) (t : Template) :
    Agrees R (Scene.renderText registry t) (Scene.renderText registry t) :=
  fun _ _ hr => ⟨rfl, h.logAll _ hr⟩

/-- The name of a target depends on the registry only. -/
theorem nameOf (h : Kin R verbose verbose') (registry : Registry) (target : Target) :
    Agrees R (Scene.nameOf registry target) (Scene.nameOf registry target) :=
  fun _ _ hr => ⟨rfl, h.logAll _ hr⟩

/-- The ARN of a target depends on the registry only. -/
theorem arnOf (h : Kin R verbose verbose') (registry : Registry) (target : Target) :
    Agrees R (Scene.arnOf registry target) (Scene.arnOf registry target) :=
  fun _ _ hr => ⟨rfl, h.logAll _ hr⟩

/-- A shell command ends alike on related states. -/
theorem runShell (h : Kin R verbose verbose') (command : String) :
    Agrees R (Scene.runShell command) (Scene.runShell command) := by
  intro s s' hr
  obtain ⟨hanswer, hstate⟩ := h.shell command _ _ (h.log (runEvent command) hr)
  exact ⟨congrArg (ranOf command) hanswer, hstate⟩

/-- Output is a detail, and none is shown where there is none. -/
theorem showOutput (h : Kin R verbose verbose') (stdout : String) {s : σ} {s' : σ'}
    (hr : R s s') :
    R (ShellAction.showOutput verbose stdout s) (ShellAction.showOutput verbose' stdout s') := by
  unfold ShellAction.showOutput
  by_cases hempty : stdout = ""
  · simpa [hempty] using hr
  · simpa [hempty] using h.detail (n := .commandOutput stdout) rfl hr

/-- **One attempt** at a step does the same on related states. -/
theorem alike_attempt (h : Kin R verbose verbose') (registry : Registry) {q : Scene σ}
    {q' : Scene σ'} (hq : Twin verbose verbose' q q') {s : σ} {s' : σ'} (hr : R s s') :
    Alike (Twin verbose verbose') R (Scene.attempt registry q s)
      (Scene.attempt registry q' s') := by
  cases hq with
  | shell command =>
      have hattempt : Agrees R (ShellAction.attempt ⟨command, verbose⟩ registry)
          (ShellAction.attempt ⟨command, verbose'⟩ registry) :=
        (h.renderText registry command).bind fun text => (h.runShell text).bind fun ran =>
          (Agrees.change (h.showOutput ran.stdout)).bind fun _ => .ofExcept _
      obtain ⟨hanswer, hstate⟩ := hattempt s s' hr
      exact ⟨hanswer, .shell command, hstate⟩
  | pause p => exact ⟨rfl, .pause p, h.sleep p.duration hr⟩
  | shellPoll p =>
      have hattempt : Agrees R (p.attempt registry) (p.attempt registry) :=
        Agrees.absorb <| (h.renderText registry p.command).bind fun text =>
          (h.runShell text).bind fun ran => .pure _
      obtain ⟨hanswer, hstate⟩ := hattempt s s' hr
      exact ⟨hanswer, .shellPoll p, hstate⟩
  | resolve target =>
      have hattempt : Agrees R (ResolveStep.attempt ⟨target, verbose⟩ registry)
          (ResolveStep.attempt ⟨target, verbose'⟩ registry) :=
        (h.nameOf registry target).bind fun name => (h.arnOf registry target).bind fun arn =>
          (Agrees.change (h.detail (n := .resolved name arn) rfl)).bind fun _ => .pure _
      obtain ⟨hanswer, hstate⟩ := hattempt s s' hr
      exact ⟨hanswer, .resolve target, hstate⟩

/-- What is reported of an event keeps the relation. -/
theorem report (h : Kin R verbose verbose') (e : StepEvent) {s : σ} {s' : σ'} (hr : R s s') :
    R (e.report verbose s) (e.report verbose' s') := by
  have hlogged : R (e.logWait s) (e.logWait s') := h.logAll _ hr
  cases e with
  | started step =>
      have hdetail := h.detail (n := .stepStarted step) rfl hlogged
      cases verbose <;> cases verbose' <;> exact hdetail
  | attemptFailed step attempt error =>
      have hdetail := h.detail (n := .attemptFailed step attempt error) rfl hlogged
      cases verbose <;> cases verbose' <;> exact hdetail
  | asked step attempts answer => exact hlogged
  | finished step report error =>
      cases error with
      | none => exact h.display (n := .stepDone step report.attempts) rfl hlogged
      | some e => exact h.display (n := .stepFailed step e) rfl hlogged

/-- **Playing steps** does the same on related states. -/
theorem simulation (h : Kin R verbose verbose') (file : PlaybookFile) (settings : Settings)
    (registry : Registry) :
    Simulation (file.pacing settings verbose : Pacing Backoff σ)
      (file.pacing settings verbose' : Pacing Backoff σ') registry
      (Twin verbose verbose' : Scene σ → Scene σ' → Prop) R where
  interval := rfl
  timer := rfl
  now := h.now
  sleep := h.sleep
  observe e hr := h.report e hr
  label hq := by cases hq <;> rfl
  attempt hq hr := h.alike_attempt registry hq hr

end Kin

end StackPlaybook
