import StackPlaybook.Proofs.Play.Script
import StackPlaybook.Proofs.Play.Progress
import StackPlaybook.Proofs.Scene.Conduct
import StackPlaybook.Rehearsal.Stage

/-!
# StackPlaybook.Proofs.Scene.Once

Actions act at most once, in whole plays and in any company.  No answer of an action asks
for another attempt (`eq_done_of_conduct`), so a play makes one attempt at it, or none if
an earlier scene ends the play (`action_acts_once`).
-/

namespace StackPlaybook

open Scene

/-! ## Company -/

/-- Scenes of two kinds in one playbook. -/
instance {S S' σ : Type} [Playable S σ] [Playable S' σ] : Playable (S ⊕ S') σ where
  label
    | .inl q => Playable.label q
    | .inr q => Playable.label q
  attempt registry
    | .inl q, s =>
      let ((result, q), s) := Playable.attempt registry q s
      ((result, .inl q), s)
    | .inr q, s =>
      let ((result, q), s) := Playable.attempt registry q s
      ((result, .inr q), s)

variable {S τ σ : Type}

/-! ## Answers of actions -/

theorem eq_done_of_map {α : Type} {x : Except Error α} {outcome : Outcome}
    (h : x.map (fun _ => Outcome.done) = .ok outcome) : outcome = .done := by
  cases x with
  | error e => cases h
  | ok a => exact (Except.ok.inj h).symm

/-- An operation that is carried out without an error is done. -/
theorem eq_done_of_handled {ρ α : Type} {resolved : Except Error ρ}
    {call : ρ → Except Error α → Call} {hook : Option (α → Except Error Unit → Call)}
    {calls : List Call} {answer : Except Error Outcome} {outcome : Outcome}
    (h : Handled resolved call hook calls answer) (hanswer : answer = .ok outcome) :
    outcome = .done := by
  cases h with
  | unresolved target => cases hanswer
  | failed target => cases hanswer
  | plain target unhooked => exact (Except.ok.inj hanswer).symm
  | hooked given target hook_eq => exact eq_done_of_map hanswer

/-- An action that does not fail is done. -/
theorem eq_done_of_conduct {registry : Registry} {calls : List Call} {outcome : Outcome}
    {scene : Scene σ} (h : Conduct registry calls (.ok outcome) scene)
    (haction : scene.isAction = true) : outcome = .done := by
  cases scene with
  | adLib a =>
      obtain ⟨given, _, hanswer⟩ := h
      exact eq_done_of_map hanswer.symm
  | publish p => exact eq_done_of_handled h rfl
  | invoke i => exact eq_done_of_handled h rfl
  | send m => exact eq_done_of_handled h rfl
  | put p => exact eq_done_of_handled h rfl
  | pause p => exact Except.ok.inj h.2
  | shell a =>
      generalize hanswer : Except.ok outcome = answer at h
      cases h with
      | unrendered text => cases hanswer
      | failed text started => cases hanswer
      | ran text started =>
          unfold ShellAction.verdict at hanswer
          split at hanswer
          · exact Except.ok.inj hanswer
          · cases hanswer
  | resolve r =>
      have hanswer := h.2
      cases hname : r.target.name registry with
      | error e => rw [hname] at hanswer; cases hanswer
      | ok name => rw [hname] at hanswer; exact eq_done_of_map hanswer.symm
  | poll p => cases haction
  | waitRecord w => cases haction
  | waitLog w => cases haction
  | shellPoll p => cases haction

/-! ## Whole plays -/

/-- What a play has to do with an action: an earlier step fails or is broken off before the
action is begun, or there is one attempt and nothing else between the beginning and the end of
the action.  The calls of that attempt are those of the action's conduct, and an error in it
ends the play. -/
inductive ActsOnce [Environment σ] (registry : Registry) (step : StepInfo) (scene : Scene σ)
    (record : List (Entry (Scene σ ⊕ S) σ)) (result : Except Halt Unit) : Prop where
  | skipped {earlier : StepInfo} {halt : Halt} (about : Entry.about step.position record = [])
      (before : earlier.position < step.position) (by_step : Stopped earlier record halt)
      (stopped : result = .error halt)
  | completed {s : σ} {elapsed : Nat} (answer : (attempt registry scene s).1.1 = .ok .done)
      (conduct : Conduct registry (scene.calls registry s) (.ok .done) scene)
      (about : Entry.about step.position record =
        [.event (.started step), .attempt ⟨step.position, .inl scene, s⟩,
          .event (.finished step ⟨1, elapsed⟩ none)])
  | failed {s : σ} {elapsed : Nat} {e : Error} {before : List (Entry (Scene σ ⊕ S) σ)}
      (answer : (attempt registry scene s).1.1 = .error e)
      (conduct : Conduct registry (scene.calls registry s) (.error e) scene)
      (about : Entry.about step.position record =
        [.event (.started step), .attempt ⟨step.position, .inl scene, s⟩,
          .event (.finished step ⟨1, elapsed⟩ (some (.stepFailed step e)))])
      (last : record = before ++ Entry.about step.position record)
      (stopped : result = .error (.failure (.stepFailed step e)))

namespace Pacing

variable [Environment σ] [Playable S σ] [Timer τ]

/-- **Actions act at most once**, whatever their timer, their company, and the behaviour
of everything that they call. -/
theorem action_acts_once (n : Nat) (p : Pacing τ σ) (registry : Registry)
    (scenes : List (Scene σ ⊕ S)) (s : σ) {i : Nat} {scene : Scene σ}
    (hscene : scenes[i]? = some (.inl scene)) (haction : scene.isAction = true) :
    ActsOnce registry ⟨i + 1, scenes.length, scene.label⟩ scene
      (p.chronicleWithin n registry scenes s) (p.playWithin n registry scenes s).1.1 := by
  have hpassage := passage_of_courses (p.courses_of_playWithin n registry scenes s) hscene
  have hdecided : ∀ (s : σ) (outcome : Outcome),
      (Playable.attempt registry (.inl scene : Scene σ ⊕ S) s).1.1 = .ok outcome →
        outcome.isDone = true := by
    intro s outcome hanswer
    have hconduct := conduct_attempt registry scene s
    rw [show (attempt registry scene s).1.1 = .ok outcome from hanswer] at hconduct
    rw [eq_done_of_conduct hconduct haction]
    rfl
  obtain ⟨habout, j, hj, hstops⟩ | ⟨own, ended, hcourse, habout, hstop⟩ := hpassage
  · obtain ⟨earlier, halt, hposition, hresult, hstopped⟩ := hstops.stopped
    have hbefore : earlier.position < i + 1 := by omega
    exact .skipped habout hbefore hstopped hresult
  · obtain ⟨⟨position, scene', t⟩, elapsed, hposition, hsame, hends⟩ :=
      once_of_course hcourse hdecided
    obtain rfl : position = i + 1 := hposition
    obtain rfl : scene' = .inl scene := hsame
    have hconduct := conduct_attempt registry scene t
    have hanswer : (⟨i + 1, .inl scene, t⟩ : Attempt (Scene σ ⊕ S) σ).answer registry =
        (attempt registry scene t).1.1 := rfl
    rw [hanswer] at hends
    cases hcase : (attempt registry scene t).1.1 with
    | error e =>
        rw [hcase] at hends hconduct
        obtain ⟨hended, rfl⟩ := hends
        obtain ⟨hresult, before, hlast⟩ := hstop _ hended
        exact .failed hcase hconduct habout (by rw [habout, hlast]) hresult
    | ok outcome =>
        rw [hcase] at hends hconduct
        obtain rfl := eq_done_of_conduct hconduct haction
        obtain ⟨-, rfl⟩ := hends
        exact .completed hcase hconduct habout

open Rehearsal in
/-- A greeting is published once to a topic of the stack, and its ID is handed to the hook. -/
theorem greeting_acts_once :
    let p : Pacing (List Duration) (Session (Stage × List String)) :=
      ⟨defaultInterval, fun _ => [.ofSecs 1], fun _ s => s⟩
    let registry : Registry := ⟨"orders", "eu-west-1", "123456789012",
      .ofList [("News", ⟨"News", "orders-news", "AWS::SNS::Topic"⟩)], none⟩
    let hello : Bytes := [104, 101, 108, 108, 111]
    let greeting : Scene (Session (Stage × List String)) := .publish
      ⟨fun topic _ s => (.ok "m-1", { s with host := (s.host.1, topic :: s.host.2) }),
        .logicalId "News", hello, some fun id s =>
          (.ok (), { s with host := (s.host.1, id :: s.host.2) })⟩
    let scenes : List (Scene (Session (Stage × List String)) ⊕
        Script (Session (Stage × List String))) :=
      [.inr (.ofList "wait" [.ok .pending, .ok .done]), .inl greeting]
    let step : StepInfo := ⟨2, 2, "Publish message to News"⟩
    let s := Session.start (⟨.emptyFolder, 0, default, [], "/home", []⟩, [])
    let record := p.chronicleWithin 1 registry scenes s
    ActsOnce registry step greeting record (p.playWithin 1 registry scenes s).1.1 ∧
      ∃ t elapsed, greeting.calls registry t =
          [.publish "arn:aws:sns:eu-west-1:123456789012:orders-news" hello (.ok "m-1"),
            .hookId "m-1" (.ok ())] ∧
        Entry.about 2 record = [.event (.started step), .attempt ⟨2, .inl greeting, t⟩,
          .event (.finished step ⟨1, elapsed⟩ none)] := by
  intro p registry hello greeting scenes step s record
  have hscene : scenes[1]? = some (.inl greeting) := rfl
  have hacts := p.action_acts_once 1 registry scenes s hscene rfl
  refine ⟨hacts, ?_⟩
  have hpassed : (p.playWithin 1 registry scenes s).1.1 = .ok () := by decide +kernel
  cases hacts with
  | skipped about before by_step stopped => cases hpassed.symm.trans stopped
  | @completed t elapsed answer conduct about => exact ⟨t, elapsed, rfl, about⟩
  | failed answer conduct about last stopped => cases hpassed.symm.trans stopped

end Pacing

end StackPlaybook
