import StackPlaybook.Proofs.Play.Account
import StackPlaybook.Proofs.Scene.Conduct
import StackPlaybook.Proofs.Scene.Expectation
import StackPlaybook.Rehearsal.Stage

/-!
# StackPlaybook.Proofs.Scene.Patience

Polls give up on fatal errors only.  Whatever error a poll meets while it resolves its
target, renders its command, reads or asks, it answers with that error if it is fatal, and
otherwise asks for another attempt (`answer_of_conduct`).  So a play of polls fails at once
on the first fatal error, and on nothing else before its timers give up
(`polls_are_patient`).
-/

namespace StackPlaybook

open Scene

variable {τ σ : Type}

/-! ## Errors that are met -/

/-- The error that came back from a call of a poll. -/
def Call.error? : Call → Option Error
  | .check given => failure? given
  | .fetch _ _ given => failure? given
  | .search _ _ _ given => failure? given
  | .spawn _ ["-c", command] run => failure? (ranOf command run)
  | _ => none

namespace Scene

/-- The error of a poll whose target does not resolve or whose command cannot be rendered. -/
def unresolved? (registry : Registry) : Scene σ → Option Error
  | .waitRecord w => failure? (w.source.name registry)
  | .waitLog w => failure? (w.function.name registry)
  | .shellPoll p => failure? (p.command.render registry)
  | _ => none

/-- The errors that a poll meets in an attempt. -/
def met [Environment σ] (registry : Registry) (scene : Scene σ) (s : σ) : List Error :=
  (scene.unresolved? registry).toList ++ (scene.calls registry s).filterMap Call.error?

end Scene

/-! ## One attempt -/

/-- What an attempt answers for the errors that it meets: it meets one at most, and a poll
that meets none is done, or it waits for something that is not there yet. -/
def Forbearing (met : List Error) (answer : Except Error Outcome) : Prop :=
  match met with
  | [] => ∃ outcome, answer = .ok outcome ∧ ∀ e, outcome = .retry e → e.isFatal = false
  | [e] => answer = Outcome.retryUnlessFatal e
  | _ => False

namespace Forbearing

variable {met : List Error} {answer : Except Error Outcome} {e : Error}

theorem ofBool (b : Bool) : Forbearing [] (.ok (.ofBool b)) :=
  ⟨.ofBool b, rfl, fun e he => by cases b <;> cases he⟩

/-- Nothing is met, or one error that is the answer unless it may clear up. -/
theorem cases (h : Forbearing met answer) :
    (met = [] ∧ ∃ outcome, answer = .ok outcome ∧ ∀ e, outcome = .retry e → e.isFatal = false) ∨
      ∃ e, met = [e] ∧ answer = Outcome.retryUnlessFatal e := by
  match met, h with
  | [], h => exact .inl ⟨rfl, h⟩
  | [e], h => exact .inr ⟨e, rfl, h⟩

/-- A failure is a fatal error that was met. -/
theorem fatal (h : Forbearing met answer) (he : answer = .error e) :
    e ∈ met ∧ e.isFatal = true := by
  obtain ⟨-, outcome, hok, -⟩ | ⟨e', rfl, hanswer⟩ := h.cases
  · rw [hok] at he
    cases he
  · rw [hanswer, Outcome.retryUnlessFatal] at he
    split at he
    · next hfatal => cases he; exact ⟨List.mem_singleton_self _, hfatal⟩
    · cases he

/-- An attempt is not repeated for a fatal error. -/
theorem not_fatal (h : Forbearing met answer) (he : answer = .ok (.retry e)) :
    e.isFatal = false := by
  obtain ⟨-, outcome, hok, hretry⟩ | ⟨e', rfl, hanswer⟩ := h.cases
  · rw [hok] at he
    exact hretry e (Except.ok.inj he)
  · rw [hanswer, Outcome.retryUnlessFatal] at he
    split at he
    · cases he
    · next hfatal => cases he; simpa using hfatal

/-- A fatal error that is met is the answer. -/
theorem at_once (h : Forbearing met answer) (he : e ∈ met) (hfatal : e.isFatal = true) :
    answer = .error e := by
  obtain ⟨rfl, -⟩ | ⟨e', rfl, hanswer⟩ := h.cases
  · cases he
  · obtain rfl := List.mem_singleton.mp he
    rw [hanswer, Outcome.retryUnlessFatal_of_fatal hfatal]

end Forbearing

theorem error?_of_asked {α : Type} {accepts : α → Bool → Call} {items : List α}
    {calls : List Call} {found : Bool} (h : Asked accepts items calls found)
    (haccepts : ∀ item b, (accepts item b).error? = none) : calls.filterMap Call.error? = [] := by
  induction h with
  | nil => rfl
  | accepted item items => simp [haccepts]
  | refused rest ih => simp [haccepts, ih]

/-- A look meets at most the error of its target or of its fetch. -/
theorem forbearing_of_looked {α : Type} {resolved : Except Error String}
    {call : String → Except Error (List α) → Call} {accepts : α → Bool → Call} {calls : List Call}
    {answer : Except Error Outcome} (h : Looked resolved call accepts calls answer)
    (hcall : ∀ name given, (call name given).error? = failure? given)
    (haccepts : ∀ item b, (accepts item b).error? = none) :
    Forbearing ((failure? resolved).toList ++ calls.filterMap Call.error?) answer := by
  cases h with
  | unresolved target => rw [target]; rfl
  | failed target =>
      rw [target, List.filterMap_cons, hcall]
      rfl
  | judged target asked =>
      rw [target, List.filterMap_cons, hcall, error?_of_asked asked haccepts]
      exact .ofBool _

/-- A polled command meets at most the error of its text or of its run. -/
theorem forbearing_of_shelled {rendered : Except Error String}
    {expect : Expectation} {calls : List Call} {answer : Except Error Outcome}
    (h : Shelled rendered Outcome.retryUnlessFatal
      (fun _ ran => .ok (ShellPoll.verdict expect ran)) calls answer) :
    Forbearing ((failure? rendered).toList ++ calls.filterMap Call.error?) answer := by
  cases h with
  | unrendered text => rw [text]; rfl
  | failed text started =>
      rw [text, List.filterMap_cons, Call.error?, started]
      rfl
  | @ran command run ran text started =>
      rw [text, List.filterMap_cons, Call.error?, started]
      refine ⟨ShellPoll.verdict expect ran, rfl, fun e he => ?_⟩
      unfold ShellPoll.verdict at he
      split at he
      · cases he
      · next e' hcheck =>
          obtain rfl : e' = e := by simpa using he
          exact (Expectation.unmet_of_check hcheck).not_fatal

/-- **One attempt at a poll** answers for the error that it meets. -/
theorem answer_of_conduct {registry : Registry} {calls : List Call}
    {answer : Except Error Outcome} {scene : Scene σ} (h : Conduct registry calls answer scene)
    (hpoll : scene.isAction = false) :
    Forbearing ((scene.unresolved? registry).toList ++ calls.filterMap Call.error?) answer := by
  cases scene with
  | poll p =>
      obtain ⟨given, rfl, rfl⟩ := h
      cases given with
      | error e => rfl
      | ok b => exact .ofBool b
  | waitRecord w =>
      obtain ⟨start, hlooked⟩ := h
      exact forbearing_of_looked hlooked (fun _ _ => rfl) fun _ _ => rfl
  | waitLog w =>
      obtain ⟨start, hlooked⟩ := h
      exact forbearing_of_looked hlooked (fun _ _ => rfl) fun _ _ => rfl
  | shellPoll p => exact forbearing_of_shelled h
  | adLib a => cases hpoll
  | publish p => cases hpoll
  | invoke i => cases hpoll
  | send m => cases hpoll
  | put p => cases hpoll
  | pause p => cases hpoll
  | shell a => cases hpoll
  | resolve r => cases hpoll

/-! ## Whole plays -/

section Play

variable [Environment σ] {registry : Registry}

/-- An attempt at a poll answers for the errors it meets. -/
theorem forbearing_attempt {scene : Scene σ} (hpoll : scene.isAction = false) (s : σ) :
    Forbearing (scene.met registry s) (attempt registry scene s).1.1 :=
  answer_of_conduct (conduct_attempt registry scene s) hpoll

theorem isAction_attempt (scene : Scene σ) (s : σ) :
    (attempt registry scene s).1.2.isAction = scene.isAction := by
  cases scene <;> rfl

/-- What it means for a play that polls give up on fatal errors only. -/
structure Patient (registry : Registry) (record : List (Entry (Scene σ) σ))
    (result : Except Error Unit) : Prop where
  /-- A scene that fails outright does so for a fatal error. -/
  source : ∀ step e, result = .error (.stepFailed step e) → e.isFatal = true
  /-- No fatal error is reported as one that an attempt is repeated for. -/
  reported : ∀ (step : StepInfo) (number : Nat) (e : Error),
    .event (.attemptFailed step number e) ∈ record → e.isFatal = false
  /-- Nor is one kept for the end: what is kept is the text of an error that was reported. -/
  kept : ∀ step number text, result = .error (.retryExhausted step number (some text)) →
    ∃ (step : StepInfo) (number : Nat) (e : Error), text = e.message ∧ e.isFatal = false ∧
      .event (.attemptFailed step number e) ∈ record
  /-- A fatal error ends the play in the attempt that meets it. -/
  at_once : ∀ (a : Attempt (Scene σ) σ) (e : Error), .attempt a ∈ record →
    e ∈ a.scene.met registry a.before → e.isFatal = true →
      ∃ step report before, step.position = a.position ∧ result = .error (.stepFailed step e) ∧
        record = before ++ [.attempt a, .event (.finished step report (some (.stepFailed step e)))]
  /-- A failure is that of a scene, and if the scene met no fatal error, its timer gave up. -/
  otherwise : ∀ err, result = .error err → ∃ step, err.step? = some step ∧
    ((∀ (a : Attempt (Scene σ) σ) (e : Error), .attempt a ∈ record → a.position = step.position →
      e ∈ a.scene.met registry a.before → e.isFatal = false) → err.isRetryExhausted = true)

/-- A play that accounts for itself, and of which every attempt is at a poll, is patient. -/
theorem patient_of_account {record : List (Entry (Scene σ) σ)} {result : Except Error Unit}
    (h : Account registry none record (result.mapError .failure))
    (hpolls : ∀ a, .attempt a ∈ record → a.scene.isAction = false) :
    Patient registry record result := by
  have hforbearing : ∀ a, .attempt a ∈ record →
      Forbearing (a.scene.met registry a.before) (a.answer registry) :=
    fun a ha => forbearing_attempt (hpolls a ha) a.before
  have hreported : ∀ (step : StepInfo) (number : Nat) (e : Error),
      .event (.attemptFailed step number e) ∈ record → e.isFatal = false := by
    intro step number e he
    obtain ⟨a, ha, _, hanswer⟩ := h.reported step number e he
    exact (hforbearing a ha).not_fatal hanswer
  constructor
  case source =>
    intro step e hresult
    have hlimited : result.mapError Halt.failure = .error (.failure (.stepFailed step e)) := by
      rw [hresult]; rfl
    obtain ⟨a, ha, _, hanswer⟩ := h.attempt_of_stepFailed hlimited
    exact ((hforbearing a ha).fatal hanswer).2
  case reported => exact hreported
  case kept =>
    intro step number text hresult
    have hlimited : result.mapError Halt.failure =
        .error (.failure (.retryExhausted step number (some text))) := by rw [hresult]; rfl
    obtain ⟨step', number', e, hmessage, he⟩ := h.reported_of_retryExhausted hlimited
    exact ⟨step', number', e, hmessage, hreported step' number' e he, he⟩
  case at_once =>
    intro a e ha hmet hfatal
    have hanswer := (hforbearing a ha).at_once hmet hfatal
    obtain ⟨step, report, before, hposition, hresult, hrecord⟩ := h.failing a e ha hanswer
    exact ⟨step, report, before, hposition, mapError_failure_inj hresult, hrecord⟩
  case otherwise =>
    intro err hresult
    rcases h.failed err (by rw [hresult]; rfl) with ⟨step, e, a, rfl, ha, hposition, hanswer⟩ |
      ⟨step, number, text?, rfl, -⟩
    · refine ⟨step, rfl, fun hmet => ?_⟩
      obtain ⟨hmeets, hfatal⟩ := (hforbearing a ha).fatal hanswer
      rw [hmet a e ha hposition hmeets] at hfatal
      cases hfatal
    · exact ⟨step, rfl, fun _ => rfl⟩

end Play

namespace Pacing

variable [Environment σ] [FiniteTimer τ]

/-- **Polls are patient**: in a play of polls, whatever their collaborators do, fatal errors
and only those fail a scene outright. -/
theorem polls_are_patient (p : Pacing τ σ) (registry : Registry) (scenes : List (Scene σ)) (s : σ)
    (hpolls : ∀ scene ∈ scenes, scene.isAction = false) :
    Patient registry (p.chronicle registry scenes s) (p.play registry scenes s).1.1 := by
  have hcourses := p.courses_of_play registry scenes s
  refine patient_of_account (account_of_courses hcourses) ?_
  refine hcourses.invariant (fun scene s hscene => ?_) hpolls
  exact (isAction_attempt scene s).trans hscene

open Rehearsal in
/-- A poll that fails at once for a fatal error. -/
theorem question_is_patient :
    let p : Pacing (List Duration) (Session Stage) :=
      ⟨defaultInterval, fun _ => [.ofSecs 1], fun _ s => s⟩
    let registry := Registry.empty "orders" "eu-west-1" "123456789012"
    let question : Scene (Session Stage) := .poll ⟨"ready?", throw (.config "no queue")⟩
    let s := Session.start ⟨.emptyFolder, 0, default, [], "/home", []⟩
    Patient registry (p.chronicle registry [question] s) (p.play registry [question] s).1.1 := by
  intro p registry question s
  refine p.polls_are_patient registry [question] s fun scene hscene => ?_
  rw [List.mem_singleton.mp hscene]
  rfl

end Pacing

end StackPlaybook
