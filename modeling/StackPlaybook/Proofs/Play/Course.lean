import StackPlaybook.Proofs.Play.Chronicle

/-!
# StackPlaybook.Proofs.Play.Course

The rules that the record of a play follows, whatever the timers.  `Move` says what one
attempt may lead to, `Course` chains moves up to the end of a scene or of the limit, and
`Courses` chains scenes:

* `move_of_turn` — every turn is a move (the step);
* `course_of_persistWithin` — every scene takes a course;
* `courses_of_playWithin` — every play is a sequence of courses, with the same result.

The rules mention no state beyond those in which attempts were made, so what holds of
all records is proved by induction on them alone.
-/

namespace StackPlaybook

variable {S τ σ : Type} [Playable S σ]

/-! ## Rules -/

/-- The entry of an attempt that ended with an error and may be repeated. -/
def noteEntries (step : StepInfo) (attempt : Nat) (outcome : Outcome) : List (Entry S σ) :=
  match outcome.error? with
  | some e => [.event (.attemptFailed step attempt e)]
  | none => []

/-- What an attempt after `made` others, whose most recent error is `last`, may come to
and leave in the record. -/
inductive Move [Timer τ] (registry : Registry) (step : StepInfo) (timer : τ) (made : Nat)
    (last : Option Error) (a : Attempt S σ) : Pacing.Turn τ → List (Entry S σ) → Prop where
  | failed {e : Error} (elapsed : Nat) (answer : a.answer registry = .error e) :
      Move registry step timer made last a (.ended (.error (.stepFailed step e)))
        [.attempt a, .event (.finished step ⟨made + 1, elapsed⟩ (some (.stepFailed step e)))]
  | done {outcome : Outcome} (elapsed : Nat) (answer : a.answer registry = .ok outcome)
      (isDone : outcome.isDone = true) :
      Move registry step timer made last a (.ended (.ok ()))
        [.attempt a, .event (.finished step ⟨made + 1, elapsed⟩ none)]
  | exhausted {outcome : Outcome} {error : Error} (elapsed : Nat)
      (answer : a.answer registry = .ok outcome) (isDone : outcome.isDone = false)
      (next : Timer.next timer = none)
      (error_eq : error =
        .retryExhausted step (made + 1) ((outcome.error?.or last).map (·.message))) :
      Move registry step timer made last a (.ended (.error error))
        (.attempt a :: noteEntries step (made + 1) outcome ++
          [.event (.asked step (made + 1) none),
            .event (.finished step ⟨made + 1, elapsed⟩ (some error))])
  | again {outcome : Outcome} {wait : Duration} {timer' : τ}
      (answer : a.answer registry = .ok outcome) (isDone : outcome.isDone = false)
      (next : Timer.next timer = some (wait, timer')) :
      Move registry step timer made last a (.again timer' (outcome.error?.or last))
        (.attempt a :: noteEntries step (made + 1) outcome ++
          [.event (.asked step (made + 1) (some wait))])

/-- How the attempts at a scene may go from some point on: what they leave in the record,
and how the scene ends unless it is broken off. -/
inductive Course [Timer τ] (registry : Registry) (step : StepInfo) :
    S → τ → Nat → Option Error → List (Entry S σ) → Except Halt Unit → Prop where
  | ended {scene : S} {timer : τ} {made : Nat} {last : Option Error} {s : σ}
      {result : Except Error Unit} {entries : List (Entry S σ)}
      (move : Move registry step timer made last ⟨step.position, scene, s⟩ (.ended result)
        entries) :
      Course registry step scene timer made last entries (result.mapError .failure)
  | limit {scene : S} {timer timer' : τ} {made : Nat} {last last' : Option Error} {s : σ}
      {entries : List (Entry S σ)}
      (move : Move registry step timer made last ⟨step.position, scene, s⟩ (.again timer' last')
        entries) :
      Course registry step scene timer made last entries (.error .limit)
  | again {scene : S} {timer timer' : τ} {made : Nat} {last last' : Option Error} {s : σ}
      {entries more : List (Entry S σ)} {result : Except Halt Unit}
      (move : Move registry step timer made last ⟨step.position, scene, s⟩ (.again timer' last')
        entries)
      (rest : Course registry step ((⟨step.position, scene, s⟩ : Attempt S σ).after registry)
        timer' (made + 1) last' more result) :
      Course registry step scene timer made last (entries ++ more) result

/-- How the scenes from a position on may go, one after the other. -/
inductive Courses [Timer τ] (registry : Registry) (total : Nat) (timer : Nat → τ) :
    Nat → List S → List (Entry S σ) → Except Halt Unit → Prop where
  | nil {position : Nat} : Courses registry total timer position [] [] (.ok ())
  | stop {position : Nat} {scene : S} {rest : List S} {entries : List (Entry S σ)} {halt : Halt}
      (course : Course registry ⟨position, total, Playable.label scene⟩ scene (timer position) 0
        none entries (.error halt)) :
      Courses registry total timer position (scene :: rest)
        (.event (.started ⟨position, total, Playable.label scene⟩) :: entries) (.error halt)
  | next {position : Nat} {scene : S} {rest : List S} {entries more : List (Entry S σ)}
      {result : Except Halt Unit}
      (course : Course registry ⟨position, total, Playable.label scene⟩ scene (timer position) 0
        none entries (.ok ()))
      (others : Courses registry total timer (position + 1) rest more result) :
      Courses registry total timer position (scene :: rest)
        (.event (.started ⟨position, total, Playable.label scene⟩) :: entries ++ more) result

/-! ## Attempts of a move -/

omit [Playable S σ] in
/-- A note is no attempt. -/
theorem filterMap_attempt_noteEntries (step : StepInfo) (attempt : Nat) (outcome : Outcome) :
    (noteEntries step attempt outcome : List (Entry S σ)).filterMap Entry.attempt? = [] := by
  unfold noteEntries
  cases outcome.error? with
  | none => rfl
  | some e => rfl

/-- A move is about one attempt. -/
theorem Move.attempts [Timer τ] {registry : Registry} {step : StepInfo} {timer : τ} {made : Nat}
    {last : Option Error} {a : Attempt S σ} {x : Pacing.Turn τ} {entries : List (Entry S σ)}
    (h : Move registry step timer made last a x entries) :
    entries.filterMap Entry.attempt? = [a] := by
  cases h with
  | failed elapsed answer => rfl
  | done elapsed answer isDone => rfl
  | exhausted elapsed answer isDone next error_eq =>
      rw [List.filterMap_append, List.filterMap_cons, filterMap_attempt_noteEntries]
      rfl
  | again answer isDone next =>
      rw [List.filterMap_append, List.filterMap_cons, filterMap_attempt_noteEntries]
      rfl

/-- What is answered in a move is what its attempt answers. -/
theorem Move.answers [Timer τ] {registry : Registry} {step : StepInfo} {timer : τ} {made : Nat}
    {last : Option Error} {a : Attempt S σ} {x : Pacing.Turn τ} {entries : List (Entry S σ)}
    (h : Move registry step timer made last a x entries) :
    Entry.answers registry entries = [(a.position, a.answer registry)] := by
  rw [Entry.answers, h.attempts]
  rfl

/-! ## Positions -/

section Positions

variable [Timer τ] {registry : Registry} {step : StepInfo} {timer : τ} {made : Nat}
  {last : Option Error} {entries : List (Entry S σ)} {result : Except Halt Unit}

omit [Playable S σ] in
/-- A note is about the scene of its step. -/
theorem position_of_mem_noteEntries {attempt : Nat} {outcome : Outcome} {x : Entry S σ}
    (hx : x ∈ noteEntries step attempt outcome) : x.position = step.position := by
  unfold noteEntries at hx
  cases herror : outcome.error? with
  | none => rw [herror] at hx; cases hx
  | some e =>
      rw [herror] at hx
      rw [List.mem_singleton.mp hx]
      rfl

/-- A move is about the scene that its attempt is made at. -/
theorem Move.position_eq {a : Attempt S σ} {turn : Pacing.Turn τ}
    (h : Move registry step timer made last a turn entries) (ha : a.position = step.position) :
    ∀ x ∈ entries, x.position = step.position := by
  intro x hx
  cases h with
  | failed elapsed answer =>
      obtain rfl | rfl := List.mem_pair.mp hx
      · exact ha
      · rfl
  | done elapsed answer isDone =>
      obtain rfl | rfl := List.mem_pair.mp hx
      · exact ha
      · rfl
  | exhausted elapsed answer isDone next error_eq =>
      obtain hx | hx := List.mem_append.mp hx
      · obtain rfl | hx := List.mem_cons.mp hx
        · exact ha
        · exact position_of_mem_noteEntries hx
      · obtain rfl | rfl := List.mem_pair.mp hx <;> rfl
  | again answer isDone next =>
      obtain hx | hx := List.mem_append.mp hx
      · obtain rfl | hx := List.mem_cons.mp hx
        · exact ha
        · exact position_of_mem_noteEntries hx
      · rw [List.mem_singleton.mp hx]
        rfl

/-- A course is about its scene. -/
theorem Course.position_eq {scene : S}
    (h : Course registry step scene timer made last entries result) :
    ∀ x ∈ entries, x.position = step.position := by
  induction h with
  | ended move => exact move.position_eq rfl
  | limit move => exact move.position_eq rfl
  | again move rest ih =>
      intro x hx
      obtain hx | hx := List.mem_append.mp hx
      · exact move.position_eq rfl x hx
      · exact ih x hx

/-- Courses are about scenes from their first position on. -/
theorem Courses.le_position {total position : Nat} {timer : Nat → τ} {scenes : List S}
    (h : Courses registry total timer position scenes entries result) :
    ∀ x ∈ entries, position ≤ x.position := by
  induction h with
  | nil => exact fun x hx => absurd hx List.not_mem_nil
  | stop course =>
      intro x hx
      obtain rfl | hx := List.mem_cons.mp hx
      · exact Nat.le_refl _
      · exact Nat.le_of_eq (course.position_eq x hx).symm
  | next course others ih =>
      intro x hx
      obtain hx | hx := List.mem_append.mp hx
      · obtain rfl | hx := List.mem_cons.mp hx
        · exact Nat.le_refl _
        · exact Nat.le_of_eq (course.position_eq x hx).symm
      · exact Nat.le_of_succ_le (ih x hx)

end Positions

/-! ## Recorded plays follow the rules -/

namespace Pacing

variable [Clock σ]

omit [Playable S σ] [Clock σ] in
@[simp] theorem entries_observe (p : Pacing τ σ) (e : StepEvent) (r : Recorded S σ) :
    (p.recording.observe e r).entries = r.entries ++ [.event e] := rfl

omit [Playable S σ] in
theorem entries_pause (last : Bool) (d : Duration) (r : Recorded S σ) :
    (if last then r else Clock.sleep d r).entries = r.entries := by cases last <;> rfl

omit [Playable S σ] in
/-- The end of a scene adds its report. -/
theorem entries_finish (p : Pacing τ σ) (step : StepInfo) (begun attempts : Nat)
    (error : Option Error) (r : Recorded S σ) :
    ∃ elapsed, (p.recording.finish step begun attempts error r).entries =
      r.entries ++ [.event (.finished step ⟨attempts, elapsed⟩ error)] := ⟨_, rfl⟩

omit [Playable S σ] [Clock σ] in
/-- After an attempt the error is noted that it is to be repeated for, if any. -/
theorem entries_note (p : Pacing τ σ) (step : StepInfo) (attempt : Nat) (outcome : Outcome)
    (r : Recorded S σ) :
    (p.recording.note step attempt outcome r).entries =
      r.entries ++ noteEntries step attempt outcome := by
  unfold note noteEntries
  cases outcome.error? with
  | none => simp
  | some e => rfl

/-- **The step**: a recorded turn adds the entries of a move, and leaves the scene as the
attempt does. -/
theorem move_of_turn [Timer τ] (p : Pacing τ σ) (registry : Registry) (step : StepInfo)
    (begun : Nat) (scene : S) (timer : τ) (made : Nat) (last : Option Error) (r : Recorded S σ) :
    let a : Attempt S σ := ⟨step.position, scene, r.state⟩
    let x := p.recording.turn registry step begun (⟨step.position, scene⟩ : Placed S) timer made
      last r
    x.1.2 = ⟨step.position, a.after registry⟩ ∧
      ∃ entries, x.2.entries = r.entries ++ entries ∧
        Move registry step timer made last a x.1.1 entries := by
  intro a x
  simp only [x, turn, Playable.attempt]
  rcases hattempt : Playable.attempt registry scene r.state with ⟨⟨result, next⟩, t⟩
  have hanswer : a.answer registry = result := by simp [a, Attempt.answer, hattempt]
  have hafter : a.after registry = next := by simp [a, Attempt.after, hattempt]
  rw [hafter]
  let attempted : Recorded S σ := ⟨t, r.entries ++ [.attempt a]⟩
  cases result with
  | error e =>
      obtain ⟨elapsed, hentries⟩ := p.entries_finish step begun (made + 1)
        (some (.stepFailed step e)) attempted
      refine ⟨rfl, _, ?_, .failed elapsed hanswer⟩
      simpa [attempted] using hentries
  | ok outcome =>
      simp only
      by_cases hd : outcome.isDone = true
      · rw [if_pos hd]
        obtain ⟨elapsed, hentries⟩ := p.entries_finish step begun (made + 1) none attempted
        refine ⟨rfl, _, ?_, .done elapsed hanswer hd⟩
        simpa [attempted] using hentries
      · rw [if_neg hd]
        have hd' : outcome.isDone = false := by simpa using hd
        have hnote := p.entries_note step (made + 1) outcome attempted
        cases hnext : Timer.next timer with
        | none =>
            obtain ⟨elapsed, hentries⟩ := p.entries_finish step begun (made + 1)
              (some (.retryExhausted step (made + 1) ((outcome.error?.or last).map (·.message))))
              (p.recording.observe (.asked step (made + 1) none)
                (p.recording.note step (made + 1) outcome attempted))
            refine ⟨rfl, _, ?_, .exhausted elapsed hanswer hd' hnext rfl⟩
            rw [entries_observe, hnote] at hentries
            simpa [attempted] using hentries
        | some given =>
            have hasked := congrArg (· ++ [.event (.asked step (made + 1) (some given.1))]) hnote
            refine ⟨rfl, _, hasked.trans ?_, .again hanswer hd' hnext⟩
            simp [attempted]

/-- **The run**: what a recorded scene adds is a course. -/
theorem course_of_persistWithin [Timer τ] (p : Pacing τ σ) (registry : Registry) (step : StepInfo)
    (begun n : Nat) (scene : S) (timer : τ) (made : Nat) (last : Option Error) (r : Recorded S σ) :
    let x := p.recording.persistWithin registry step begun n (⟨step.position, scene⟩ : Placed S)
      timer made last r
    ∃ entries, x.2.entries = r.entries ++ entries ∧
      Course registry step scene timer made last entries x.1.1 := by
  induction n generalizing scene timer made last r with
  | zero =>
      obtain ⟨hscene, entries, hentries, hmove⟩ :=
        p.move_of_turn registry step begun scene timer made last r
      rcases hturn : p.recording.turn registry step begun (⟨step.position, scene⟩ : Placed S) timer
        made last r with ⟨⟨result, next⟩, t⟩
      rw [hturn] at hentries hmove
      cases result with
      | ended result =>
          rw [persistWithin_of_ended 0 hturn]
          exact ⟨entries, hentries, .ended hmove⟩
      | again timer' last' =>
          rw [persistWithin_zero_of_again hturn]
          exact ⟨entries, hentries, .limit hmove⟩
  | succ n ih =>
      obtain ⟨hscene, entries, hentries, hmove⟩ :=
        p.move_of_turn registry step begun scene timer made last r
      rcases hturn : p.recording.turn registry step begun (⟨step.position, scene⟩ : Placed S) timer
        made last r with ⟨⟨result, next⟩, t⟩
      rw [hturn] at hscene hentries hmove
      cases result with
      | ended result =>
          rw [persistWithin_of_ended (n + 1) hturn]
          exact ⟨entries, hentries, .ended hmove⟩
      | again timer' last' =>
          subst hscene
          rw [persistWithin_succ_of_again n hturn]
          obtain ⟨more, hmore, hcourse⟩ := ih _ timer' (made + 1) last' t
          refine ⟨entries ++ more, ?_, .again hmove hcourse⟩
          rw [hmore, hentries, List.append_assoc]

/-- Scenes from a position on add their courses, up to the first that does not end well. -/
theorem courses_of_inOrder [Timer τ] (p : Pacing τ σ) (registry : Registry) (n total : Nat)
    (scenes : List S) (position : Nat) (r : Recorded S σ) :
    let x := p.recording.inOrder (p.recording.playSceneWithin n registry total) position
      (place position scenes) r
    ∃ entries, x.2.entries = r.entries ++ entries ∧
      Courses registry total p.timer position scenes entries x.1.1 := by
  induction scenes generalizing position r with
  | nil => exact ⟨[], by simp [place, inOrder], .nil⟩
  | cons scene rest ih =>
      let step : StepInfo := ⟨position, total, Playable.label scene⟩
      obtain ⟨entries, hentries, hcourse⟩ := p.course_of_persistWithin registry step
        (Clock.now (p.recording.observe (.started step) r)) n scene (p.timer position) 0 none
        (p.recording.observe (.started step) r)
      rcases hplay : p.recording.playSceneWithin n registry total position
        (⟨position, scene⟩ : Placed S) r with ⟨⟨result, next⟩, t⟩
      have hpersist : p.recording.persistWithin registry step
          (Clock.now (p.recording.observe (.started step) r)) n (⟨position, scene⟩ : Placed S)
          (p.timer position) 0 none (p.recording.observe (.started step) r) =
            ((result, next), t) := hplay
      rw [hpersist, entries_observe] at hentries
      rw [hpersist] at hcourse
      rw [place]
      cases result with
      | error halt =>
          rw [inOrder_of_error _ hplay]
          exact ⟨_, by rw [hentries, List.append_assoc]; rfl, .stop hcourse⟩
      | ok u =>
          rw [inOrder_of_ok _ hplay]
          obtain ⟨more, hmore, hcourses⟩ := ih (position + 1)
            (if (place (position + 1) rest).isEmpty then t else Clock.sleep p.recording.interval t)
          refine ⟨_, ?_, .next hcourse hcourses⟩
          rw [hmore, entries_pause, hentries]
          simp [step]

/-- **Every play is a sequence of courses**, with the result that they have. -/
theorem courses_of_playWithin [Timer τ] (n : Nat) (p : Pacing τ σ) (registry : Registry)
    (scenes : List S) (s : σ) :
    Courses registry scenes.length p.timer 1 scenes (p.chronicleWithin n registry scenes s)
      (p.playWithin n registry scenes s).1.1 := by
  obtain ⟨entries, hentries, hcourses⟩ :=
    p.courses_of_inOrder registry n scenes.length scenes 1 ⟨s, []⟩
  rw [← result_recordingWithin, chronicleWithin, playWithin, length_place, hentries]
  exact hcourses

/-- With finite timers a play is a sequence of courses none of which is broken off. -/
theorem courses_of_play [FiniteTimer τ] (p : Pacing τ σ) (registry : Registry) (scenes : List S)
    (s : σ) :
    Courses registry scenes.length p.timer 1 scenes (p.chronicle registry scenes s)
      ((p.play registry scenes s).1.1.mapError .failure) := by
  obtain ⟨n, hn⟩ := exists_limit p.timer scenes.length
  have h := p.courses_of_playWithin n registry scenes s
  rwa [p.chronicleWithin_eq registry scenes s hn, p.playWithin_eq registry scenes s hn] at h

/-- What one scene adds is a course with the result that the scene has when it is played
alone, in any state. -/
theorem course_of_playScene [FiniteTimer τ] (p : Pacing τ σ) (registry : Registry)
    (total position : Nat) (scene : S) (s : σ) :
    ∃ entries : List (Entry S σ),
      Course registry ⟨position, total, Playable.label scene⟩ scene (p.timer position) 0 none
        entries ((p.playScene registry total position scene s).1.1.mapError .failure) := by
  let step : StepInfo := ⟨position, total, Playable.label scene⟩
  let n := FiniteTimer.budget (p.timer position)
  let r : Recorded S σ := ⟨s, []⟩
  let q : Placed S := ⟨position, scene⟩
  obtain ⟨entries, -, hcourse⟩ := p.course_of_persistWithin registry step
    (Clock.now (p.recording.observe (.started step) r)) n scene (p.timer position) 0 none
    (p.recording.observe (.started step) r)
  have hrecorded : (p.recording.playSceneWithin n registry total position q r).1.1 =
      (p.playSceneWithin n registry total position scene s).1.1 :=
    ((p.recording_simulation registry).playSceneWithin n total position rfl rfl).answer
  rw [p.playSceneWithin_eq registry total position scene s (Nat.le_refl n)] at hrecorded
  exact ⟨entries, Eq.subst hrecorded hcourse⟩

end Pacing

end StackPlaybook
