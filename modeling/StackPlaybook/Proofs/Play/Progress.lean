import StackPlaybook.Proofs.Play.Account
import StackPlaybook.Proofs.Play.Passage

/-!
# StackPlaybook.Proofs.Play.Progress

How far a play gets.  Each scene is completed, or some scene is the first that is not, and
then the failure of the play is that of this scene (`progress_of_courses`).

Under a limit a scene may also be broken off.  `StopsAt.stopped` tells the two ways apart in
which a scene ends a play.
-/

namespace StackPlaybook

variable {S τ σ : Type} [Playable S σ]

/-- The scene at a position was completed: an attempt at it is done. -/
def Completed (registry : Registry) (entries : List (Entry S σ)) (position : Nat) : Prop :=
  ∃ a, .attempt a ∈ entries ∧ a.position = position ∧ a.answer registry = .ok .done

namespace Completed

variable {registry : Registry} {entries more : List (Entry S σ)} {position : Nat}

/-- A scene is completed in one part of a record or in the other. -/
theorem append_iff :
    Completed registry (entries ++ more) position ↔
      Completed registry entries position ∨ Completed registry more position := by
  constructor
  · rintro ⟨a, ha, hposition, hanswer⟩
    obtain ha | ha := List.mem_append.mp ha
    · exact .inl ⟨a, ha, hposition, hanswer⟩
    · exact .inr ⟨a, ha, hposition, hanswer⟩
  · rintro (⟨a, ha, hdone⟩ | ⟨a, ha, hdone⟩)
    · exact ⟨a, List.mem_append_left _ ha, hdone⟩
    · exact ⟨a, List.mem_append_right _ ha, hdone⟩

/-- An event completes nothing. -/
theorem cons_event_iff {e : StepEvent} :
    Completed registry (.event e :: entries) position ↔ Completed registry entries position := by
  unfold Completed
  simp only [Entry.attempt_mem_cons_event]

end Completed

/-! ## One scene -/

section Scene

variable [Timer τ] {registry : Registry} {step : StepInfo} {timer timer' : τ} {made : Nat}
  {last last' : Option Error} {a : Attempt S σ} {entries : List (Entry S σ)}

/-- How a scene ended: it is completed, or it failed with a report of its failure. -/
inductive Ended (registry : Registry) (step : StepInfo) (entries : List (Entry S σ)) :
    Except Error Unit → Prop
  | completed (done : Completed registry entries step.position) :
      Ended registry step entries (.ok ())
  | failed {e : Error} (undone : ¬ Completed registry entries step.position)
      (failure : e.step? = some step)
      (told : ∃ report, .event (.finished step report (some e)) ∈ entries) :
      Ended registry step entries (.error e)

/-- A move completes its scene just if its attempt is done. -/
theorem Move.completed_iff {turn : Pacing.Turn τ}
    (h : Move registry step timer made last a turn entries) (ha : a.position = step.position) :
    Completed registry entries step.position ↔ a.answer registry = .ok .done := by
  constructor
  · rintro ⟨b, hb, -, hanswer⟩
    obtain rfl := h.mem_attempt_iff.mp hb
    exact hanswer
  · exact fun hanswer => ⟨a, h.mem_attempt_iff.mpr rfl, ha, hanswer⟩

/-- The last attempt at a scene completes it, or the scene fails. -/
theorem ended_of_move {result : Except Error Unit}
    (h : Move registry step timer made last a (.ended result) entries)
    (ha : a.position = step.position) : Ended registry step entries result := by
  have hiff := h.completed_iff ha
  cases h with
  | failed elapsed answer =>
      refine .failed (fun hdone => ?_) rfl ⟨_, List.mem_cons_of_mem _ List.mem_cons_self⟩
      have hanswer := answer.symm.trans (hiff.mp hdone)
      cases hanswer
  | @done outcome elapsed answer isDone =>
      cases outcome with
      | done => exact .completed (hiff.mpr answer)
      | pending => cases isDone
      | retry e => cases isDone
  | @exhausted outcome error elapsed answer isDone next error_eq =>
      have htold : Entry.event (.finished step ⟨made + 1, elapsed⟩ (some error)) ∈
          (.attempt a :: noteEntries step (made + 1) outcome ++
            [.event (.asked step (made + 1) none),
              .event (.finished step ⟨made + 1, elapsed⟩ (some error))] : List (Entry S σ)) :=
        List.mem_append_right _ (List.mem_cons_of_mem _ List.mem_cons_self)
      refine .failed (fun hdone => ?_) (by rw [error_eq]; rfl) ⟨_, htold⟩
      have hanswer := answer.symm.trans (hiff.mp hdone)
      cases hanswer
      cases isDone

/-- A move that goes on leaves its scene to be completed by the others. -/
theorem Ended.again {result : Except Error Unit} {more : List (Entry S σ)}
    (h : Move registry step timer made last a (.again timer' last') entries)
    (ha : a.position = step.position) (hmore : Ended registry step more result) :
    Ended registry step (entries ++ more) result := by
  have hundone : ¬ Completed registry entries step.position := by
    rw [h.completed_iff ha]
    cases h with
    | again answer isDone next =>
        intro hanswer
        cases answer.symm.trans hanswer
        cases isDone
  cases hmore with
  | completed done => exact .completed (Completed.append_iff.mpr (.inr done))
  | failed undone failure told =>
      obtain ⟨report, hreport⟩ := told
      refine .failed (fun hdone => ?_) failure ⟨report, List.mem_append_right _ hreport⟩
      exact (Completed.append_iff.mp hdone).elim hundone undone

/-- **A scene** that was played to its end is completed or failed. -/
theorem ended_of_course {scene : S} {limited : Except Halt Unit} {result : Except Error Unit}
    (h : Course registry step scene timer made last entries limited)
    (hended : limited = result.mapError .failure) : Ended registry step entries result := by
  induction h with
  | ended move =>
      obtain rfl := mapError_failure_inj hended
      exact ended_of_move move rfl
  | limit move => exact absurd hended.symm (mapError_failure_ne_limit result)
  | again move rest ih => exact (ih hended).again move rfl

end Scene

/-! ## All scenes -/

/-- How far scenes from a position on got: all are completed, or the failure is that of the
first which is not. -/
inductive Progress (registry : Registry) (total position : Nat) (scenes : List S)
    (entries : List (Entry S σ)) : Except Error Unit → Prop
  | completed (all : ∀ i < scenes.length, Completed registry entries (i + position)) :
      Progress registry total position scenes entries (.ok ())
  | stopped {i : Nat} {scene : S} {e : Error}
      (scene_eq : scenes[i]? = some scene)
      (before : ∀ j < i, Completed registry entries (j + position))
      (undone : ¬ Completed registry entries (i + position))
      (failure : e.step? = some ⟨i + position, total, Playable.label scene⟩)
      (told : ∃ report,
        .event (.finished ⟨i + position, total, Playable.label scene⟩ report (some e)) ∈ entries) :
      Progress registry total position scenes entries (.error e)

namespace Progress

variable {registry : Registry} {total position : Nat} {scene : S} {rest : List S}
  {entries more : List (Entry S σ)}

/-- The first scene is not completed. -/
theorem stop {e : Error}
    (h : Ended registry ⟨position, total, Playable.label scene⟩ entries (.error e)) :
    Progress registry total position (scene :: rest) entries (.error e) := by
  cases h with
  | failed undone failure told =>
      rw [← Nat.zero_add position] at undone failure told
      exact .stopped (i := 0) rfl nofun undone failure told

/-- The first scene is completed, and the others got so far. -/
theorem cons {result : Except Error Unit}
    (hfirst : Completed registry entries position)
    (howns : ∀ x ∈ entries, x.position = position)
    (h : Progress registry total (position + 1) rest more result) :
    Progress registry total position (scene :: rest) (entries ++ more) result := by
  have hshift : ∀ i, i + 1 + position = i + (position + 1) := fun i => by omega
  have hlater : ∀ i, Completed registry (entries ++ more) (i + 1 + position) ↔
      Completed registry more (i + (position + 1)) := by
    intro i
    rw [Completed.append_iff, hshift]
    refine ⟨fun hdone => hdone.resolve_left ?_, .inr⟩
    rintro ⟨a, ha, hposition, -⟩
    have hown : a.position = position := howns _ ha
    omega
  have hbefore : ∀ k, (∀ j < k, Completed registry more (j + (position + 1))) →
      ∀ j < k + 1, Completed registry (entries ++ more) (j + position) := by
    intro k hall j hj
    cases j with
    | zero =>
        rw [Nat.zero_add]
        exact Completed.append_iff.mpr (.inl hfirst)
    | succ j => exact (hlater j).mpr (hall j (Nat.lt_of_succ_lt_succ hj))
  cases h with
  | completed all => exact .completed (hbefore rest.length all)
  | @stopped i scene' e scene_eq before undone failure told =>
      obtain ⟨report, hreport⟩ := told
      refine .stopped (i := i + 1) scene_eq (hbefore i before) ?_ ?_ ?_
      · rw [hlater]
        exact undone
      · rw [hshift]
        exact failure
      · rw [hshift]
        exact ⟨report, List.mem_append_right _ hreport⟩

end Progress

/-- **Scenes in order** are completed up to the first that is not, which has the failure of
the play. -/
theorem progress_of_courses [Timer τ] {registry : Registry} {total position : Nat}
    {timer : Nat → τ} {scenes : List S} {entries : List (Entry S σ)} {limited : Except Halt Unit}
    {result : Except Error Unit}
    (h : Courses registry total timer position scenes entries limited)
    (hended : limited = result.mapError .failure) :
    Progress registry total position scenes entries result := by
  induction h with
  | nil =>
      obtain rfl : .ok () = result := mapError_failure_inj hended
      exact .completed nofun
  | stop course =>
      cases result with
      | ok u => cases hended
      | error e =>
          cases ended_of_course course hended with
          | failed undone failure told =>
              obtain ⟨report, hreport⟩ := told
              refine .stop (.failed (fun hdone => ?_) failure
                ⟨report, List.mem_cons_of_mem _ hreport⟩)
              exact undone (Completed.cons_event_iff.mp hdone)
  | next course others ih =>
      have hcompleted : .ok () = (.ok () : Except Error Unit).mapError Halt.failure := rfl
      cases ended_of_course course hcompleted with
      | completed done =>
          exact (ih hended).cons (Completed.cons_event_iff.mpr done) course.begun

/-! ## The scene that ends a play -/

/-- How a step ends a play: it failed, and that was reported, or it was begun and broken off
before there was anything to report. -/
inductive Stopped (step : StepInfo) (record : List (Entry S σ)) : Halt → Prop
  | failed {e : Error} (failure : e.step? = some step)
      (told : ∃ report, .event (.finished step report (some e)) ∈ record) :
      Stopped step record (.failure e)
  | cut (begun : .event (.started step) ∈ record)
      (untold : ∀ report error, .event (.finished step report error) ∉ record) :
      Stopped step record .limit

section Stopped

variable [Timer τ] {registry : Registry} {entries : List (Entry S σ)} {result : Except Halt Unit}

/-- An attempt that is to be repeated is not the end of its scene. -/
theorem Move.untold {step : StepInfo} {timer timer' : τ} {made : Nat} {last last' : Option Error}
    {a : Attempt S σ} (h : Move registry step timer made last a (.again timer' last') entries)
    (report : StepReport) (error : Option Error) :
    .event (.finished step report error) ∉ entries := by
  cases h with
  | again answer isDone next =>
      intro hmem
      obtain hmem | hmem := List.mem_append.mp hmem
      · obtain heq | hmem := List.mem_cons.mp hmem
        · cases heq
        · obtain ⟨e, -, heq⟩ := Move.mem_noteEntries_iff.mp hmem
          cases heq
      · cases List.mem_singleton.mp hmem

/-- A scene that is broken off does not come to its end. -/
theorem Course.untold {step : StepInfo} {scene : S} {timer : τ} {made : Nat} {last : Option Error}
    (h : Course registry step scene timer made last entries result) (hcut : result = .error .limit)
    (report : StepReport) (error : Option Error) :
    .event (.finished step report error) ∉ entries := by
  induction h with
  | ended move => exact absurd hcut (mapError_failure_ne_limit _)
  | limit move => exact move.untold report error
  | again move rest ih =>
      intro hmem
      exact (List.mem_append.mp hmem).elim (move.untold report error) (ih hcut)

/-- **The scene that ends a play** failed or was broken off. -/
theorem StopsAt.stopped {total position i : Nat} {timer : Nat → τ} {scenes : List S}
    (h : StopsAt registry total position timer scenes entries i result) :
    ∃ step halt, step.position = i + position ∧ result = .error halt ∧
      Stopped step entries halt := by
  cases h with
  | @intro scene own halt scene_eq course about =>
      let step : StepInfo := ⟨i + position, total, Playable.label scene⟩
      -- What the record says of the step is said in its course.
      have hsaid {x : Entry S σ} (hposition : x.position = step.position) :
          x ∈ entries ↔ x ∈ .event (.started step) :: own := by
        rw [← about, Entry.about, List.mem_filter, decide_eq_true_iff, and_iff_left hposition]
      refine ⟨step, halt, rfl, rfl, ?_⟩
      cases halt with
      | failure e =>
          have hfailed : (.error (.failure e) : Except Halt Unit) =
              (.error e : Except Error Unit).mapError .failure := rfl
          cases ended_of_course course hfailed with
          | failed undone failure told =>
              obtain ⟨report, hreport⟩ := told
              exact .failed failure ⟨report, (hsaid rfl).mpr (List.mem_cons_of_mem _ hreport)⟩
      | limit =>
          refine .cut ((hsaid rfl).mpr List.mem_cons_self) fun report error hmem => ?_
          obtain heq | hmem := List.mem_cons.mp ((hsaid rfl).mp hmem)
          · cases heq
          · exact course.untold rfl report error hmem

/-- Without a limit it failed. -/
theorem StopsAt.failed {total position i : Nat} {timer : Nat → τ} {scenes : List S}
    {result : Except Error Unit}
    (h : StopsAt registry total position timer scenes entries i (result.mapError .failure)) :
    ∃ step e, step.position = i + position ∧ result = .error e ∧ e.step? = some step := by
  obtain ⟨step, halt, hposition, hresult, hstopped⟩ := h.stopped
  cases hstopped with
  | @failed e failure told => exact ⟨step, e, hposition, mapError_failure_inj hresult, failure⟩
  | cut begun untold => exact absurd hresult (mapError_failure_ne_limit result)

end Stopped

/-! ## What a record says of a scene -/

section About

variable {registry : Registry} {record : List (Entry S σ)}

/-- An attempt that is done, among those at a scene, completes the scene. -/
theorem completed_of_about {position : Nat} {a : Attempt S σ}
    (ha : a ∈ (Entry.about position record).filterMap Entry.attempt?)
    (hanswer : a.answer registry = .ok .done) : Completed registry record position := by
  rw [← Entry.attempts_about] at ha
  obtain ⟨hmem, hposition⟩ := List.mem_filter.mp ha
  exact ⟨a, Entry.mem_of_attempt hmem, of_decide_eq_true hposition, hanswer⟩

/-- The scene that a play failed by is not completed. -/
theorem Progress.not_completed_of_step {total position : Nat} {scenes : List S} {e : Error}
    (h : Progress registry total position scenes record (.error e)) {step : StepInfo}
    (hstep : e.step? = some step) : ¬ Completed registry record step.position := by
  cases h with
  | stopped scene_eq before undone failure told =>
      obtain rfl := Option.some.inj (failure.symm.trans hstep)
      exact undone

end About

end StackPlaybook
