import StackPlaybook.Proofs.Play.Course
import StackPlaybook.Proofs.Waits

/-!
# StackPlaybook.Proofs.Play.Passage

How one scene fares in a play of many.  Either an earlier scene ends the play before the
scene is begun, or what the record says of it is a course of its own, and a course that
does not end well is where the record ends (`passage_of_courses`).

What attempts always answer decides the course: a scene that every attempt decides is
attempted once (`once_of_course`), and one that asks for another attempt each time gives up
after the last wait (`exhausted_of_course`).
-/

namespace StackPlaybook

variable {S τ σ : Type}

/-- The entries about the scene at a position. -/
def Entry.about (position : Nat) (entries : List (Entry S σ)) : List (Entry S σ) :=
  entries.filter fun x => x.position = position

namespace Entry

variable {position : Nat} {entries more : List (Entry S σ)}

theorem about_append :
    about position (entries ++ more) = about position entries ++ about position more :=
  List.filter_append ..

/-- A record of one scene is about that scene. -/
theorem about_eq_self (h : ∀ x ∈ entries, x.position = position) :
    about position entries = entries :=
  List.filter_eq_self.mpr fun x hx => decide_eq_true (h x hx)

/-- A record that does not mention a scene has nothing about it. -/
theorem about_eq_nil (h : ∀ x ∈ entries, x.position ≠ position) : about position entries = [] :=
  List.filter_eq_nil_iff.mpr fun x hx heq => h x hx (of_decide_eq_true heq)

/-- The attempts at the scene at a position are those in the entries about it. -/
theorem attempts_about (position : Nat) (entries : List (Entry S σ)) :
    (entries.filterMap attempt?).filter (fun a => a.position = position) =
      (about position entries).filterMap attempt? := by
  rw [about, List.filter_filterMap, List.filterMap_filter]
  refine List.filterMap_congr fun x _ => ?_
  cases x with
  | attempt a => simp [attempt?, Entry.position]; rfl
  | event e => simp [attempt?]

end Entry

variable [Playable S σ] [Timer τ] {registry : Registry}

/-- A scene that was begun, with the course that it took. -/
theorem Course.begun {step : StepInfo} {scene : S} {timer : τ} {own : List (Entry S σ)}
    {ended : Except Halt Unit} (h : Course registry step scene timer 0 none own ended) :
    ∀ x ∈ (.event (.started step) :: own : List (Entry S σ)), x.position = step.position := by
  intro x hx
  obtain rfl | hx := List.mem_cons.mp hx
  · rfl
  · exact h.position_eq x hx

/-- The scene at an index ends a play: what the record says of it is a course that does not end
well. -/
inductive StopsAt (registry : Registry) (total position : Nat) (timer : Nat → τ) (scenes : List S)
    (entries : List (Entry S σ)) (i : Nat) : Except Halt Unit → Prop
  | intro {scene : S} {own : List (Entry S σ)} {halt : Halt} (scene_eq : scenes[i]? = some scene)
      (course : Course registry ⟨i + position, total, Playable.label scene⟩ scene
        (timer (i + position)) 0 none own (.error halt))
      (about : Entry.about (i + position) entries =
        .event (.started ⟨i + position, total, Playable.label scene⟩) :: own) :
      StopsAt registry total position timer scenes entries i (.error halt)

/-- Entries about an earlier scene come before those of the scene that ends the play. -/
theorem StopsAt.after {total position i : Nat} {timer : Nat → τ} {first : S} {rest : List S}
    {entries more : List (Entry S σ)} {result : Except Halt Unit}
    (h : StopsAt registry total (position + 1) timer rest more i result)
    (hearlier : ∀ x ∈ entries, x.position = position) :
    StopsAt registry total position timer (first :: rest) (entries ++ more) (i + 1) result := by
  cases h with
  | intro scene_eq course about =>
      rw [← Nat.succ_add_eq_add_succ] at course about
      have hsilent : Entry.about (i + 1 + position) entries = [] :=
        Entry.about_eq_nil fun x hx heq => by
          have hposition := hearlier x hx
          omega
      refine .intro scene_eq course ?_
      rw [Entry.about_append, hsilent, List.nil_append]
      exact about

/-- **How one scene fares**: it is not begun in a play that an earlier one ends, or it takes
a course of its own.  Nothing comes after a course that does not end well. -/
theorem passage_of_courses {total position : Nat} {timer : Nat → τ} {scenes : List S}
    {entries : List (Entry S σ)} {result : Except Halt Unit}
    (h : Courses registry total timer position scenes entries result) {i : Nat} {scene : S}
    (hscene : scenes[i]? = some scene) :
    let step : StepInfo := ⟨i + position, total, Playable.label scene⟩
    (Entry.about step.position entries = [] ∧
        ∃ j < i, StopsAt registry total position timer scenes entries j result) ∨
      ∃ own ended, Course registry step scene (timer step.position) 0 none own ended ∧
        Entry.about step.position entries = .event (.started step) :: own ∧
        ∀ halt, ended = .error halt →
          result = .error halt ∧ (.event (.started step) :: own) <:+ entries := by
  induction h generalizing i with
  | nil => cases hscene
  | @stop position first rest entries halt course =>
      cases i with
      | zero =>
          obtain rfl : first = scene := Option.some.inj hscene
          simp only [Nat.zero_add]
          refine .inr ⟨entries, .error halt, course, Entry.about_eq_self course.begun, ?_⟩
          intro halt' heq
          exact ⟨heq, List.suffix_refl _⟩
      | succ i =>
          refine .inl ⟨Entry.about_eq_nil fun x hx hpos => ?_, 0, Nat.succ_pos i, ?_⟩
          · have heq := course.begun x hx
            simp only at heq hpos
            omega
          · have hfirst : Course registry ⟨0 + position, total, Playable.label first⟩ first
                (timer (0 + position)) 0 none entries (.error halt) := by
              rw [Nat.zero_add]
              exact course
            refine .intro rfl hfirst ?_
            rw [Nat.zero_add]
            exact Entry.about_eq_self course.begun
  | @next position first rest entries more result course others ih =>
      cases i with
      | zero =>
          obtain rfl : first = scene := Option.some.inj hscene
          simp only [Nat.zero_add]
          refine .inr ⟨entries, .ok (), course, ?_, fun halt heq => (by cases heq)⟩
          have hlater : ∀ x ∈ more, x.position ≠ position := by
            intro x hx heq
            have hle := others.le_position x hx
            omega
          rw [Entry.about_append, Entry.about_eq_self course.begun, Entry.about_eq_nil hlater,
            List.append_nil]
      | succ i =>
          have hearlier : Entry.about (i + 1 + position)
              (.event (.started ⟨position, total, Playable.label first⟩) :: entries) = [] := by
            refine Entry.about_eq_nil fun x hx hpos => ?_
            have heq := course.begun x hx
            simp only at heq
            omega
          have hrest := ih hscene
          simp only [← Nat.succ_add_eq_add_succ] at hrest
          simp only [Entry.about_append, hearlier, List.nil_append]
          obtain ⟨habout, j, hj, hstops⟩ | ⟨own, ended, hcourse, habout, hstopped⟩ := hrest
          · exact .inl ⟨habout, j + 1, Nat.succ_lt_succ hj, hstops.after course.begun⟩
          · refine .inr ⟨own, ended, hcourse, habout, fun halt heq => ?_⟩
            obtain ⟨hresult, hsuffix⟩ := hstopped halt heq
            exact ⟨hresult, hsuffix.trans (List.suffix_append _ _)⟩

/-- **A scene that every attempt decides** is attempted once: its course is that attempt
and the report of what it came to.  The timer is not asked. -/
theorem once_of_course {step : StepInfo} {scene : S} {timer : τ} {made : Nat}
    {last : Option Error} {own : List (Entry S σ)} {ended : Except Halt Unit}
    (h : Course registry step scene timer made last own ended)
    (decided : ∀ (s : σ) (outcome : Outcome),
      (Playable.attempt registry scene s).1.1 = .ok outcome → outcome.isDone = true) :
    ∃ (a : Attempt S σ) (elapsed : Nat), a.position = step.position ∧ a.scene = scene ∧
      match a.answer registry with
      | .error e =>
        ended = .error (.failure (.stepFailed step e)) ∧
          own = [.attempt a,
            .event (.finished step ⟨made + 1, elapsed⟩ (some (.stepFailed step e)))]
      | .ok _ =>
        ended = .ok () ∧ own = [.attempt a, .event (.finished step ⟨made + 1, elapsed⟩ none)] := by
  have hnever : ∀ {s : σ} {outcome : Outcome},
      (⟨step.position, scene, s⟩ : Attempt S σ).answer registry = .ok outcome →
        outcome.isDone ≠ false := by
    intro s outcome hanswer hdone
    rw [decided s outcome hanswer] at hdone
    cases hdone
  cases h with
  | @ended _ _ _ _ s _ _ move =>
      cases move with
      | failed elapsed answer =>
          refine ⟨⟨step.position, scene, s⟩, elapsed, rfl, rfl, ?_⟩
          rw [answer]
          exact ⟨rfl, rfl⟩
      | done elapsed answer isDone =>
          refine ⟨⟨step.position, scene, s⟩, elapsed, rfl, rfl, ?_⟩
          rw [answer]
          exact ⟨rfl, rfl⟩
      | exhausted elapsed answer isDone next error_eq => exact absurd isDone (hnever answer)
  | limit move =>
      cases move with
      | again answer isDone next => exact absurd isDone (hnever answer)
  | again move rest =>
      cases move with
      | again answer isDone next => exact absurd isDone (hnever answer)

/-- **A scene that asks for another attempt each time**, for one and the same error, gives up with
that error after the last wait. -/
theorem exhausted_of_course {τ : Type} [FiniteTimer τ] {step : StepInfo} {scene : S} {timer : τ}
    {made : Nat} {last : Option Error} {own : List (Entry S σ)} {ended : Except Halt Unit}
    (h : Course registry step scene timer made last own ended) (hended : ended ≠ .error .limit)
    {e : Error}
    (unsettled : ∀ s : σ, (Playable.attempt registry scene s).1 = (.ok (.retry e), scene)) :
    ended = .error (.failure (.retryExhausted step (made + (FiniteTimer.waits timer).length + 1)
      (some e.message))) := by
  have hanswer (s : σ) :
      (⟨step.position, scene, s⟩ : Attempt S σ).answer registry = .ok (.retry e) :=
    congrArg Prod.fst (unsettled s)
  induction h with
  | ended move =>
      cases move with
      | failed elapsed answer => cases (hanswer _).symm.trans answer
      | done elapsed answer isDone =>
          cases (hanswer _).symm.trans answer
          cases isDone
      | exhausted elapsed answer isDone next error_eq =>
          cases (hanswer _).symm.trans answer
          rw [FiniteTimer.waits_of_none next, error_eq]
          rfl
  | limit move => exact absurd rfl hended
  | @again scene timer timer' made last last' s entries more result move rest ih =>
      have hsame : (⟨step.position, scene, s⟩ : Attempt S σ).after registry = scene :=
        congrArg Prod.snd (unsettled s)
      rw [hsame] at ih
      cases move with
      | again answer isDone next =>
          rw [ih hended unsettled hanswer, FiniteTimer.waits_of_some next, List.length_cons]
          congr 4
          omega

end StackPlaybook
