import StackPlaybook.Proofs.Play.Progress
import StackPlaybook.Proofs.Run.Steps
import StackPlaybook.Proofs.Run.Supply
import StackPlaybook.Proofs.Scene.Conduct

/-!
# StackPlaybook.Proofs.Run.Inquiry

Steps that ask for the name and the ARN of an ID: `resolve`, and commands with the two
placeholders, run once or polled.

* `Surrounding` — what may stand around the placeholders, `Inquiry` — the steps.
* `flaw?_step` — such a step is bad just if the ID is a malformed ARN.
* `Attempted` — what an attempt at the step does, by what the ID stands for;
  `exists_scene` — every attempt at its scene does so.
* `Fared` — what a play comes to at the step; `fared_of_play` — every play of its scene does.
-/

namespace StackPlaybook

open Scene

section Hosts

variable {ω : Type} [Host ω]

/-! ## Steps -/

/-- Texts around the placeholders of a command: templates of their own, and what becomes of
them in a registry. -/
structure Surrounding (registry : Registry) where
  before : String
  after : String
  whole : Placeholder.Whole before.toList
  front : Template
  back : Template
  parse_before : Template.parse before = .ok front
  parse_after : Template.parse after = .ok back
  lead : String
  trail : String
  render_front : front.render registry = .ok lead
  render_back : back.render registry = .ok trail

namespace Surrounding

variable {registry : Registry} (around : Surrounding registry)

/-- The command that asks for the name and the ARN of an ID. -/
def command (id : String) : String := around.before ++ Template.pairFor id ++ around.after

/-- The command that is to be run for a name and an ARN. -/
def text (name arn : String) : String := around.lead ++ (name ++ " " ++ arn) ++ around.trail

end Surrounding

/-- A step that asks for the name and the ARN of an ID. -/
inductive Inquiry (registry : Registry) where
  | resolve
  | shell (around : Surrounding registry)
  | poll (around : Surrounding registry) (expect : Option Expectation)

namespace Inquiry

variable {registry : Registry}

def step (id : String) : Inquiry registry → PlaybookStep
  | .resolve => .resolve id
  | .shell around => .shell (around.command id)
  | .poll around expect => .poll (around.command id) expect

/-- The answer of an attempt for an error: what is polled for may still appear. -/
def refusal : Inquiry registry → Error → Except Error Outcome
  | .poll .., e => Outcome.retryUnlessFatal e
  | _, e => .error e

/-- The failure of the step for an error, where its timer gives so many waits. -/
def failure (step : StepInfo) (waits : Nat) : Inquiry registry → Error → Error
  | .poll .., e =>
    if e.isFatal then .stepFailed step e else .retryExhausted step (waits + 1) (some e.message)
  | _, e => .stepFailed step e

/-- An error is refused for good, or the step asks for another attempt and fails in the end. -/
theorem refusal_cases (inquiry : Inquiry registry) (step : StepInfo) (waits : Nat) (e : Error) :
    (inquiry.refusal e = .error e ∧ inquiry.failure step waits e = .stepFailed step e) ∨
      inquiry.refusal e = .ok (.retry e) ∧
        inquiry.failure step waits e = .retryExhausted step (waits + 1) (some e.message) := by
  cases inquiry with
  | resolve => exact .inl ⟨rfl, rfl⟩
  | shell around => exact .inl ⟨rfl, rfl⟩
  | poll around expect =>
      by_cases hfatal : e.isFatal = true
      · exact .inl ⟨Outcome.retryUnlessFatal_of_fatal hfatal, if_pos hfatal⟩
      · have hclears : e.isFatal = false := Bool.eq_false_iff.mpr hfatal
        exact .inr ⟨Outcome.retryUnlessFatal_of_not_fatal hclears, if_neg hfatal⟩

end Inquiry

/-- What an attempt at a step does that asks for an ID, by what the ID stands for: the name
and the ARN are shown, or the command is run with them; or the step fails, and nothing is
shown or run. -/
inductive Attempted {registry : Registry} (verbose : Bool) (u : Session ω) :
    Inquiry registry → Except Error (String × String) → Except Error Outcome → Session ω → Prop
  | resolved {name arn : String} {t : Session ω} (host : t.host = u.host)
      (notices : t.notices = u.notices ++ if verbose then [.resolved name arn] else []) :
      Attempted verbose u .resolve (.ok (name, arn)) (.ok .done) t
  | ran {around : Surrounding registry} {name arn : String} {given : Except String Finished}
      {t : Session ω}
      (spawned : Host.spawn "sh" ["-c", around.text name arn] u.host = (given, t.host)) :
      Attempted verbose u (.shell around) (.ok (name, arn))
        ((ranOf (around.text name arn) given).bind
          (ShellAction.verdict (around.text name arn))) t
  | polled {around : Surrounding registry} {expect : Option Expectation} {name arn : String}
      {given : Except String Finished} {t : Session ω}
      (spawned : Host.spawn "sh" ["-c", around.text name arn] u.host = (given, t.host)) :
      Attempted verbose u (.poll around expect) (.ok (name, arn))
        (absorbed ((ranOf (around.text name arn) given).map
          (ShellPoll.verdict (expect.getD .none)))) t
  | rejected {inquiry : Inquiry registry} {e : Error} {t : Session ω} (host : t.host = u.host)
      (notices : t.notices = u.notices) :
      Attempted verbose u inquiry (.error e) (inquiry.refusal e) t

/-- Every attempt at a scene does what an attempt at the step does for what the ID stands for, and
leaves the scene as it is. -/
def Inquires {registry : Registry} (verbose : Bool) (inquiry : Inquiry registry)
    (found : Except Error (String × String)) (scene : Scene (Session ω)) : Prop :=
  ∀ u, ∃ answer u', attempt registry scene u = ((answer, scene), u') ∧
    Attempted verbose u inquiry found answer u'

namespace Inquiry

variable {registry : Registry} {id : String}

/-- A step that asks for an ID is bad just if the ID is a malformed ARN. -/
theorem flaw?_step (hid : Template.Placeable id) (inquiry : Inquiry registry) :
    (inquiry.step id).flaw? = failure? (Target.parse id) := by
  have hcommand (around : Surrounding registry) :
      failure? (Template.parse (around.command id)) = failure? (Target.parse id) := by
    rw [Surrounding.command, Template.parse_pair hid around.whole around.parse_before
      around.parse_after]
    cases Target.parse id <;> rfl
  cases inquiry with
  | resolve => rfl
  | shell around => exact hcommand around
  | poll around expect => exact hcommand around

/-- The template of a command that asks for an ID. -/
theorem exists_template (hid : Template.Placeable id) (around : Surrounding registry)
    {target : Target} (hparse : Target.parse id = .ok target) :
    ∃ t : Template, Template.parse (around.command id) = .ok t ∧
      t.render registry =
        (Target.resolve registry id).map fun found => around.text found.1 found.2 := by
  have hread := Template.parse_pair hid around.whole around.parse_before around.parse_after
  rw [hparse] at hread
  refine ⟨_, hread, ?_⟩
  rw [Template.render_pair id _ target around.render_front around.render_back,
    Target.resolve_of_ok registry hparse]
  cases target.name registry with
  | error e => rfl
  | ok name => cases target.arnText registry <;> rfl

/-- An attempt at a `resolve` step shows what the ID stands for, or is refused. -/
theorem attempted_resolve {target : Target} (hparse : Target.parse id = .ok target)
    (verbose : Bool) (u : Session ω) :
    let x := ResolveStep.attempt ⟨target, verbose⟩ registry u
    Attempted verbose u (.resolve : Inquiry registry) (Target.resolve registry id) x.1 x.2 := by
  rw [Target.resolve_of_ok registry hparse]
  simp only [ResolveStep.attempt, Act.bind_apply, nameOf_apply, arnOf_apply, Session.logAll_eq]
  cases target.name registry with
  | error e => exact .rejected rfl rfl
  | ok name =>
      simp only
      cases target.arnText registry with
      | error e => exact .rejected rfl rfl
      | ok arn =>
          cases verbose with
          | false => exact .resolved rfl (by simp)
          | true => exact .resolved rfl (by simp [Environment.display])

/-- A command is run on the host, and nothing else happens to it. -/
theorem exists_runShell (command : String) (u : Session ω) :
    ∃ given, ∃ t : Session ω, Host.spawn "sh" ["-c", command] u.host = (given, t.host) ∧
      runShell command u = (ranOf command given, t) :=
  ⟨_, _, rfl, rfl⟩

theorem host_showOutput (verbose : Bool) (stdout : String) (u : Session ω) :
    (ShellAction.showOutput verbose stdout u).host = u.host := by
  unfold ShellAction.showOutput
  split <;> rfl

variable {t : Template}

/-- An attempt at a command runs it with what the ID stands for, or is refused. -/
theorem attempted_shell {around : Surrounding registry}
    (hrender : t.render registry =
      (Target.resolve registry id).map fun found => around.text found.1 found.2)
    (verbose : Bool) (u : Session ω) :
    let x := ShellAction.attempt ⟨t, verbose⟩ registry u
    Attempted verbose u (.shell around) (Target.resolve registry id) x.1 x.2 := by
  simp only [ShellAction.attempt, Act.bind_apply, renderText_apply, Session.logAll_eq, hrender]
  cases Target.resolve registry id with
  | error e => exact .rejected rfl rfl
  | ok found =>
      obtain ⟨name, arn⟩ := found
      obtain ⟨given, v, hspawn, hrun⟩ := exists_runShell (around.text name arn)
        ({ u with journal := u.journal ++ Template.events registry t.segments } : Session ω)
      -- The output is shown after the command has run, so the host is that of `v` all the same.
      have hanswer (v' : Session ω) (hv' : v'.host = v.host) :
          Attempted verbose u (.shell around) (.ok (name, arn))
            ((ranOf (around.text name arn) given).bind
              (ShellAction.verdict (around.text name arn))) v' :=
        .ran (by rw [hspawn, hv'])
      simp only [Except.map, hrun]
      cases hran : ranOf (around.text name arn) given with
      | error e =>
          rw [hran] at hanswer
          exact hanswer v rfl
      | ok ran =>
          rw [hran] at hanswer
          exact hanswer _ (host_showOutput verbose ran.stdout v)

/-- An attempt at a polled command runs it with what the ID stands for, or is refused. -/
theorem attempted_poll {around : Surrounding registry} (expect : Option Expectation)
    (hrender : t.render registry =
      (Target.resolve registry id).map fun found => around.text found.1 found.2)
    (verbose : Bool) (u : Session ω) :
    let x := ShellPoll.attempt ⟨t, expect.getD .none⟩ registry u
    Attempted verbose u (.poll around expect) (Target.resolve registry id) x.1 x.2 := by
  simp only [ShellPoll.attempt, absorb_apply, Act.bind_apply, renderText_apply, Session.logAll_eq,
    hrender]
  cases Target.resolve registry id with
  | error e => exact .rejected rfl rfl
  | ok found =>
      obtain ⟨name, arn⟩ := found
      obtain ⟨given, v, hspawn, hrun⟩ := exists_runShell (around.text name arn)
        ({ u with journal := u.journal ++ Template.events registry t.segments } : Session ω)
      have hanswer : Attempted verbose u (.poll around expect) (.ok (name, arn))
          (absorbed ((ranOf (around.text name arn) given).map
            (ShellPoll.verdict (expect.getD .none)))) v := .polled hspawn
      simp only [Except.map, hrun]
      cases hran : ranOf (around.text name arn) given with
      | error e =>
          rw [hran] at hanswer
          exact hanswer
      | ok ran =>
          rw [hran] at hanswer
          exact hanswer

/-- **The scene of a step that asks for an ID** does in every attempt what the ID stands
for. -/
theorem exists_scene (hid : Template.Placeable id) (inquiry : Inquiry registry) (verbose : Bool)
    {target : Target} (hparse : Target.parse id = .ok target) :
    ∃ scene : Scene (Session ω), (inquiry.step id).scene verbose = .ok scene ∧
      Inquires verbose inquiry (Target.resolve registry id) scene := by
  cases inquiry with
  | resolve =>
      refine ⟨.resolve ⟨target, verbose⟩, ?_, fun u => ?_⟩
      · rw [step, PlaybookStep.scene, hparse]
        rfl
      · exact ⟨_, _, rfl, attempted_resolve hparse verbose u⟩
  | shell around =>
      obtain ⟨t, hread, hrender⟩ := exists_template hid around hparse
      refine ⟨.shell ⟨t, verbose⟩, ?_, fun u => ?_⟩
      · rw [step, PlaybookStep.scene, hread]
        rfl
      · exact ⟨_, _, rfl, attempted_shell hrender verbose u⟩
  | poll around expect =>
      obtain ⟨t, hread, hrender⟩ := exists_template hid around hparse
      refine ⟨.shellPoll ⟨t, expect.getD .none⟩, ?_, fun u => ?_⟩
      · rw [step, PlaybookStep.scene, hread]
        rfl
      · exact ⟨_, _, rfl, attempted_poll expect hrender verbose u⟩

end Inquiry

/-! ## Plays -/

section Plays

variable {τ : Type} {registry : Registry} {verbose : Bool} {inquiry : Inquiry registry}
  {scene : Scene (Session ω)} {found : Except Error (String × String)}

/-- What a play comes to at a step that asks for an ID, by what the ID stands for, where the timer
of the step gives so many waits.  An earlier step fails before this one is begun; or the scene of
the step is attempted, and if the ID stands for nothing, the play fails by the step and by that
error, while a `resolve` step is completed if the ID stands for something. -/
inductive Fared (verbose : Bool) (inquiry : Inquiry registry)
    (found : Except Error (String × String)) (scene : Scene (Session ω)) (step : StepInfo)
    (waits : Nat) (record : List (Entry (Scene (Session ω)) (Session ω))) : Option Error → Prop
  | skipped {e : Error} {earlier : StepInfo} (about : Entry.about step.position record = [])
      (by_step : e.step? = some earlier) (before : earlier.position < step.position) :
      Fared verbose inquiry found scene step waits record (some e)
  | begun {failure : Option Error}
      (attempted : ∃ a, .attempt a ∈ Entry.about step.position record)
      (attempts : ∀ a, .attempt a ∈ Entry.about step.position record →
        a.scene = scene ∧ ∃ u, Attempted verbose a.before inquiry found (a.answer registry) u)
      (rejected : ∀ e, found = .error e → failure = some (inquiry.failure step waits e))
      (resolved : ∀ names, found = .ok names → inquiry = .resolve →
        Completed registry record step.position) :
      Fared verbose inquiry found scene step waits record failure

/-- For an error the answer is the refusal of the step. -/
theorem Inquires.refusal_eq {e : Error} (h : Inquires verbose inquiry (.error e) scene)
    (u : Session ω) : (attempt registry scene u).1 = (inquiry.refusal e, scene) := by
  obtain ⟨answer, u', hattempt, hattempted⟩ := h u
  cases hattempted with
  | rejected host notices => rw [hattempt]

/-- A `resolve` step is done where the ID stands for something. -/
theorem Inquires.done_eq {names : String × String}
    (h : Inquires verbose (.resolve : Inquiry registry) (.ok names) scene) (u : Session ω) :
    (attempt registry scene u).1 = (.ok .done, scene) := by
  obtain ⟨answer, u', hattempt, hattempted⟩ := h u
  cases hattempted with
  | resolved host notices => rw [hattempt]

/-- A scene whose ID stands for nothing fails by that error. -/
theorem failed_of_course [FiniteTimer τ] {e : Error}
    (hscene : Inquires verbose inquiry (.error e) scene) {step : StepInfo} {timer : τ}
    {own : List (Entry (Scene (Session ω)) (Session ω))} {ended : Except Halt Unit}
    (h : Course registry step scene timer 0 none own ended) (hended : ended ≠ .error .limit) :
    ended =
      .error (.failure (inquiry.failure step (FiniteTimer.waits timer).length e)) := by
  obtain ⟨hrefusal, hfailure⟩ | ⟨hrefusal, hfailure⟩ :=
    inquiry.refusal_cases step (FiniteTimer.waits timer).length e
  · have hanswer (u : Session ω) : (Playable.attempt registry scene u).1.1 = .error e :=
      (congrArg Prod.fst (hscene.refusal_eq u)).trans hrefusal
    obtain ⟨⟨position, scene', u⟩, elapsed, -, hsame, hends⟩ := once_of_course h
      fun u outcome hok => by cases (hanswer u).symm.trans hok
    obtain rfl : scene' = scene := hsame
    rw [Attempt.answer, hanswer] at hends
    rw [hends.1, hfailure]
  · have hretry (u : Session ω) :
        (Playable.attempt registry scene u).1 = (.ok (.retry e), scene) := by
      rw [← hrefusal]
      exact hscene.refusal_eq u
    rw [exhausted_of_course h hended hretry, hfailure, Nat.zero_add]

/-- A `resolve` step whose ID stands for something is completed once it is begun. -/
theorem completed_of_course [FiniteTimer τ] {names : String × String}
    (hscene : Inquires verbose (.resolve : Inquiry registry) (.ok names) scene)
    {step : StepInfo} {timer : τ} {own : List (Entry (Scene (Session ω)) (Session ω))}
    {ended : Except Halt Unit} (h : Course registry step scene timer 0 none own ended) :
    Completed registry own step.position := by
  have hanswer (u : Session ω) : (Playable.attempt registry scene u).1.1 = .ok .done :=
    congrArg Prod.fst (hscene.done_eq u)
  obtain ⟨⟨position, scene', u⟩, elapsed, hposition, hsame, hends⟩ := once_of_course h
    fun u outcome hok => by
      cases (hanswer u).symm.trans hok
      rfl
  obtain rfl : scene' = scene := hsame
  rw [Attempt.answer, hanswer] at hends
  refine ⟨⟨position, scene', u⟩, ?_, hposition, hanswer u⟩
  rw [hends.2]
  exact List.mem_cons_self

/-- **A play of a step that asks for an ID** comes to what the ID stands for. -/
theorem fared_of_play [FiniteTimer τ] (p : Pacing τ (Session ω)) (scenes : List (Scene (Session ω)))
    (s : Session ω) (hinquires : Inquires verbose inquiry found scene) {i : Nat}
    (hscene : scenes[i]? = some scene) :
    Fared verbose inquiry found scene ⟨i + 1, scenes.length, scene.label⟩
      (FiniteTimer.waits (p.timer (i + 1))).length (p.chronicle registry scenes s)
      (failure? (p.play registry scenes s).1.1) := by
  have hcourses := p.courses_of_play registry scenes s
  generalize p.chronicle registry scenes s = record at hcourses ⊢
  generalize (p.play registry scenes s).1.1 = result at hcourses ⊢
  obtain ⟨habout, j, hj, hstops⟩ | ⟨own, ended, hcourse, habout, hstop⟩ :=
    passage_of_courses hcourses hscene
  · obtain ⟨earlier, e, hposition, rfl, hstep⟩ := hstops.failed
    have hbefore : earlier.position < i + 1 := by omega
    exact .skipped habout hstep hbefore
  · have hlimit : ended ≠ .error .limit := fun heq =>
      mapError_failure_ne_limit result (hstop _ heq).1
    have hown {a : Attempt (Scene (Session ω)) (Session ω)} :
        .attempt a ∈ Entry.about (i + 1) record ↔ .attempt a ∈ own := by
      rw [habout, Entry.attempt_mem_cons_event]
    refine .begun ?_ (fun a ha => ?_) (fun e he => ?_) fun names hnames hresolve => ?_
    · obtain ⟨a, ha⟩ := hcourse.exists_attempt
      exact ⟨a, hown.mpr ha⟩
    · have hsame : a.scene = scene := by
        refine hcourse.invariant (P := (· = scene)) (fun scene' u heq => ?_) rfl a (hown.mp ha)
        subst heq
        obtain ⟨answer, u', hattempt, -⟩ := hinquires u
        exact congrArg (·.1.2) hattempt
      obtain ⟨answer, u', hattempt, hattempted⟩ := hinquires a.before
      have hanswer : a.answer registry = answer := by
        rw [Attempt.answer, hsame]
        exact congrArg (·.1.1) hattempt
      exact ⟨hsame, u', hanswer ▸ hattempted⟩
    · subst he
      have hfailed := failed_of_course hinquires hcourse hlimit
      have hresult : result = .error (inquiry.failure _ _ e) :=
        mapError_failure_inj (hstop _ hfailed).1
      exact congrArg failure? hresult
    · subst hnames hresolve
      obtain ⟨a, ha, hposition, hdone⟩ := completed_of_course hinquires hcourse
      exact ⟨a, (List.mem_filter.mp (hown.mpr ha)).1, hposition, hdone⟩

end Plays

end Hosts

end StackPlaybook
