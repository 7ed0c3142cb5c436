import StackPlaybook.Playbook.Observer
import StackPlaybook.Proofs.Play.Lapse
import StackPlaybook.Proofs.Scene.Once

/-!
# StackPlaybook.Proofs.Scene.Timing

The time that a play takes, scene by scene, by a clock that only waits move
(`timetable_of_playWithin`).  Among scenes of any kind a pause takes its duration and
nothing else (`pause_of_course`).

Sessions of a host with an exact clock are such states: what is shown or logged takes no
time (`exact_of_session`).
-/

namespace StackPlaybook

open Scene

variable {S τ σ ω : Type}

/-! ## Pauses -/

section Pause

variable [Environment σ] [Playable S σ] [Timer τ] {registry : Registry} {step : StepInfo}

/-- An attempt at a pause waits, and is done. -/
theorem attempt_pause (q : Pause) (s : σ) :
    Playable.attempt registry (.inl (.pause q) : Scene σ ⊕ S) s =
      ((.ok .done, .inl (.pause q)), Clock.sleep q.duration s) := rfl

/-- **A pause** is attempted once, and the attempt takes its duration. -/
theorem pause_of_course {p : Pacing τ σ} (hp : p.Exact) {q : Pause} {timer : τ}
    {own : List (Entry (Scene σ ⊕ S) σ)} {ended : Except Halt Unit}
    (h : Course registry step (.inl (.pause q) : Scene σ ⊕ S) timer 0 none own ended) :
    ∃ a, own.filterMap Entry.attempt? = [a] ∧ a.spent registry = q.duration.nanos := by
  have hdecided : ∀ (s : σ) (outcome : Outcome),
      (Playable.attempt registry (.inl (.pause q) : Scene σ ⊕ S) s).1.1 = .ok outcome →
        outcome.isDone = true := by
    intro s outcome hanswer
    rw [attempt_pause] at hanswer
    obtain rfl := Except.ok.inj hanswer
    rfl
  obtain ⟨⟨position, scene, s⟩, elapsed, -, hscene, hends⟩ := once_of_course h hdecided
  obtain rfl : scene = .inl (.pause q) := hscene
  refine ⟨⟨position, .inl (.pause q), s⟩, ?_, ?_⟩
  · rw [Attempt.answer, attempt_pause] at hends
    rw [hends.2]
    rfl
  · rw [Attempt.spent, Attempt.left, attempt_pause, hp.sleep, Nat.add_sub_cancel_left]

/-- A pause that was begun is a block of one attempt, which takes its duration. -/
theorem pause_of_trail {p : Pacing τ σ} (hp : p.Exact) {scenes : List (Scene σ ⊕ S)}
    {entries : List (Entry (Scene σ ⊕ S) σ)} {limited : Except Halt Unit}
    {result : Except Error Unit} {s t : σ} {blocks : List (Block (Scene σ ⊕ S) σ)}
    (hcourses : Courses registry scenes.length p.timer 1 scenes entries limited)
    (htrail : Trail registry scenes.length 1 scenes entries result blocks)
    (htimetable : Timetable registry p s t blocks) {b : Block (Scene σ ⊕ S) σ} (hb : b ∈ blocks)
    {i : Nat} {q : Pause} (hposition : b.step.position = i + 1)
    (hscene : scenes[i]? = some (.inl (.pause q))) :
    b.attempts.length = 1 ∧ spent registry b.attempts = q.duration.nanos ∧
      b.elapsed = q.duration.nanos := by
  have hschedule := htimetable.schedule b hb
  have hattempts := htrail.attempts b hb
  rw [hposition, Entry.attempts_about] at hattempts
  obtain ⟨habout, -⟩ | ⟨own, ended, hcourse, habout, -⟩ := passage_of_courses hcourses hscene
  · rw [habout] at hattempts
    -- A block has an attempt, so its scene was begun.
    have hlength := hschedule.length_waits
    rw [hattempts] at hlength
    cases hlength
  · obtain ⟨a, hown, hspent⟩ := pause_of_course hp hcourse
    have hone : b.attempts = [a] := by
      rw [hattempts, habout, ← hown]
      rfl
    have htotal : spent registry b.attempts = q.duration.nanos := by simp [hone, spent, hspent]
    refine ⟨by rw [hone]; rfl, htotal, ?_⟩
    rw [hschedule.time_eq, htotal, hone]
    simp [Duration.total]

end Pause

/-! ## Sessions -/

namespace Session

variable [Host ω]

theorem now_log (e : Log.Event) (s : Session ω) : Clock.now (Environment.log e s) = Clock.now s :=
  rfl

/-- Logging takes no time. -/
theorem now_logAll (events : List Log.Event) (s : Session ω) :
    Clock.now (Environment.logAll events s) = Clock.now s := by
  unfold Environment.logAll
  induction events generalizing s with
  | nil => rfl
  | cons e events ih => rw [List.foldl_cons, ih, now_log]

/-- Reporting an event takes no time. -/
theorem now_report (verbose : Bool) (e : StepEvent) (s : Session ω) :
    Clock.now (e.report verbose s) = Clock.now s := by
  unfold StepEvent.report StepEvent.logWait
  cases e.notice? verbose with
  | none => exact now_logAll _ s
  | some n => exact now_logAll _ s

theorem now_trace (e : StepEvent) (s : Session ω) : Clock.now (e.trace s) = Clock.now s := by
  unfold StepEvent.trace StepEvent.logWait
  rw [now_logAll, now_logAll]

end Session

/-- A host that offers nothing but its clock. -/
instance : Host Ticks where
  today _ := default
  spawn _ _ s := (.error "No such file or directory", s)
  readFile _ s := (.error "No such file or directory", s)
  fileExists _ _ := false
  getVariable _ _ := none
  configHome _ := "/home"

namespace Pacing

/-- What a play logs or shows takes no time. -/
theorem exact_of_session [Host ω] (p : Pacing τ (Session ω))
    (hsleep : ∀ (d : Duration) (w : ω), Clock.now (Clock.sleep d w) = Clock.now w + d.nanos)
    (hobserve : p.observe = StepEvent.trace ∨ ∃ verbose, p.observe = StepEvent.report verbose) :
    p.Exact where
  sleep d s := hsleep d s.host
  observe e s := by
    obtain hobserve | ⟨verbose, hobserve⟩ := hobserve
    · rw [hobserve, Session.now_trace]
    · rw [hobserve, Session.now_report]

/-! ## Whole plays -/

/-- **The time of a play** that comes to an end, by a clock that only waits move.  Every
scene that was begun reports the time of its attempts and of the waits between them, and
for a pause that is its duration.  All that passes besides is the interval between one scene
and the next: there is no wait after the last attempt at a scene, and no interval before the
first scene, after the last one or after a failure. -/
theorem timetable_of_playWithin [Environment σ] [Playable S σ] [Timer τ] (n : Nat)
    (p : Pacing τ σ) (registry : Registry) (scenes : List (Scene σ ⊕ S)) (s : σ)
    {result : Except Error Unit} (hp : p.Exact)
    (hended : (p.playWithin n registry scenes s).1.1 = result.mapError .failure)
    (hforward : Forward registry (p.chronicleWithin n registry scenes s)) :
    ∃ blocks, Trail registry scenes.length 1 scenes (p.chronicleWithin n registry scenes s) result
        blocks ∧
      Timetable registry p s (p.playWithin n registry scenes s).2 blocks ∧
      ∀ b ∈ blocks, ∀ (i : Nat) (q : Pause), b.step.position = i + 1 →
        scenes[i]? = some (.inl (.pause q)) →
          b.attempts.length = 1 ∧ spent registry b.attempts = q.duration.nanos ∧
            b.elapsed = q.duration.nanos := by
  have hcourses := p.courses_of_playWithin n registry scenes s
  obtain ⟨blocks, htrail, htimetable⟩ := timed_playWithin hp n registry scenes s hended hforward
  exact ⟨blocks, htrail, htimetable, fun b hb i q hposition hscene =>
    pause_of_trail hp hcourses htrail htimetable hb hposition hscene⟩

/-- A scene that waits between its attempts, and a pause. -/
theorem timetable_of_waiting_pausing :
    let p : Pacing (List Duration) (Session Ticks) :=
      ⟨defaultInterval, fun _ => [.ofMillis 500, .ofSecs 1], StepEvent.trace⟩
    let registry := Registry.empty "orders" "eu-west-1" "123456789012"
    let script : Script (Session Ticks) := .ofList "wait" [.ok .pending, .ok .done]
    let scenes : List (Scene (Session Ticks) ⊕ Script (Session Ticks)) :=
      [.inr script, .inl (.pause ⟨.ofSecs 3⟩)]
    let s : Session Ticks := .start ⟨0⟩
    ∃ blocks, Trail registry 2 1 scenes (p.chronicleWithin 1 registry scenes s) (.ok ()) blocks ∧
      Timetable registry p s (p.playWithin 1 registry scenes s).2 blocks ∧
      ∀ b ∈ blocks, ∀ (i : Nat) (q : Pause), b.step.position = i + 1 →
        scenes[i]? = some (.inl (.pause q)) →
          b.attempts.length = 1 ∧ spent registry b.attempts = q.duration.nanos ∧
            b.elapsed = q.duration.nanos := by
  intro p registry script scenes s
  have hp : p.Exact := p.exact_of_session (fun _ _ => rfl) (.inl rfl)
  have hforward : Forward registry (p.chronicleWithin 1 registry scenes s) := by
    intro a ha
    have hmem : a ∈ (p.chronicleWithin 1 registry scenes s).filterMap Entry.attempt? :=
      List.mem_filterMap.mpr ⟨_, ha, rfl⟩
    obtain rfl | hmem := List.mem_cons.mp hmem
    · exact Nat.le_refl _
    obtain rfl | hmem := List.mem_cons.mp hmem
    · exact Nat.le_refl _
    obtain rfl := List.mem_singleton.mp hmem
    exact Nat.le_add_right _ _
  exact p.timetable_of_playWithin 1 registry scenes s hp rfl hforward

end Pacing

end StackPlaybook
