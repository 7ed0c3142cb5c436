import StackPlaybook.Proofs.Play.Course

/-!
# StackPlaybook.Proofs.Play.Account

Where the errors of a play come from.  Every error that is reported, remembered or
returned is the answer of an attempt in the record, and an attempt that fails is the last
one (`account_of_courses`).  What every attempt keeps of a scene holds of all scenes in the
record (`Courses.invariant`).
-/

namespace StackPlaybook

variable {S τ σ : Type} [Playable S σ] [Timer τ] {registry : Registry}

/-! ## One attempt -/

namespace Move

variable {step : StepInfo} {timer timer' : τ} {made : Nat} {last last' : Option Error}
  {a : Attempt S σ} {turn : Pacing.Turn τ} {entries : List (Entry S σ)}

/-- The one attempt in a move is the one that it is about. -/
theorem mem_attempt_iff (h : Move registry step timer made last a turn entries)
    {b : Attempt S σ} : .attempt b ∈ entries ↔ b = a := by
  have hmem : .attempt b ∈ entries ↔ b ∈ entries.filterMap Entry.attempt? := by
    refine ⟨fun hb => List.mem_filterMap.mpr ⟨_, hb, rfl⟩, Entry.mem_of_attempt⟩
  rw [hmem, h.attempts, List.mem_singleton]

omit [Playable S σ] [Timer τ] in
/-- What is noted of an attempt is the error that it is to be repeated for. -/
theorem mem_noteEntries_iff {attempt : Nat} {outcome : Outcome} {x : Entry S σ} :
    x ∈ noteEntries step attempt outcome ↔
      ∃ e, outcome = .retry e ∧ x = .event (.attemptFailed step attempt e) := by
  cases outcome with
  | done => simp [noteEntries, Outcome.error?]
  | pending => simp [noteEntries, Outcome.error?]
  | retry e => simp [noteEntries, Outcome.error?]

/-- An error that is reported is one that the attempt is to be repeated for. -/
theorem reported (h : Move registry step timer made last a turn entries) {step' : StepInfo}
    {number : Nat} {e : Error} (he : .event (.attemptFailed step' number e) ∈ entries) :
    step' = step ∧ a.answer registry = .ok (.retry e) := by
  have hnoted : ∀ {outcome : Outcome} {rest : List (Entry S σ)},
      a.answer registry = .ok outcome →
      .event (.attemptFailed step' number e) ∉ rest →
      .event (.attemptFailed step' number e) ∈
        (.attempt a :: noteEntries step (made + 1) outcome) ++ rest →
      step' = step ∧ a.answer registry = .ok (.retry e) := by
    intro outcome rest hanswer hrest hmem
    obtain hmem | hmem := List.mem_append.mp hmem
    · obtain heq | hmem := List.mem_cons.mp hmem
      · cases heq
      · obtain ⟨e', rfl, heq⟩ := mem_noteEntries_iff.mp hmem
        cases heq
        exact ⟨rfl, hanswer⟩
    · exact absurd hmem hrest
  cases h with
  | failed elapsed answer => simp at he
  | done elapsed answer isDone => simp at he
  | exhausted elapsed answer isDone next error_eq => exact hnoted answer (by simp) he
  | again answer isDone next => exact hnoted answer (by simp) he

/-- An attempt that fails ends its scene with its error. -/
theorem of_error (h : Move registry step timer made last a turn entries) {e : Error}
    (he : a.answer registry = .error e) :
    turn = .ended (.error (.stepFailed step e)) ∧ ∃ elapsed, entries =
      [.attempt a, .event (.finished step ⟨made + 1, elapsed⟩ (some (.stepFailed step e)))] := by
  cases h with
  | failed elapsed answer =>
      rw [answer] at he
      cases he
      exact ⟨rfl, elapsed, rfl⟩
  | done elapsed answer isDone => rw [answer] at he; cases he
  | exhausted elapsed answer isDone next error_eq => rw [answer] at he; cases he
  | again answer isDone next => rw [answer] at he; cases he

omit [Playable S σ] [Timer τ] in
/-- An error that is remembered was remembered before, or is reported. -/
theorem remembered {outcome : Outcome} {rest : List (Entry S σ)} {e : Error}
    (he : outcome.error?.or last = some e) :
    last = some e ∨ .event (.attemptFailed step (made + 1) e) ∈
      (.attempt a :: noteEntries step (made + 1) outcome) ++ rest := by
  cases outcome with
  | done => exact .inl he
  | pending => exact .inl he
  | retry e' =>
      obtain rfl : e' = e := Option.some.inj he
      refine .inr (List.mem_append_left _ (List.mem_cons_of_mem _ ?_))
      exact mem_noteEntries_iff.mpr ⟨e', rfl, rfl⟩

end Move

/-- A scene that was begun is attempted. -/
theorem Course.exists_attempt {step : StepInfo} {scene : S} {timer : τ} {made : Nat}
    {last : Option Error} {entries : List (Entry S σ)} {result : Except Halt Unit}
    (h : Course registry step scene timer made last entries result) :
    ∃ a, .attempt a ∈ entries := by
  cases h with
  | ended move => exact ⟨_, move.mem_attempt_iff.mpr rfl⟩
  | limit move => exact ⟨_, move.mem_attempt_iff.mpr rfl⟩
  | again move rest => exact ⟨_, List.mem_append_left _ (move.mem_attempt_iff.mpr rfl)⟩

/-! ## What attempts keep of a scene -/

section Invariant

variable {P : S → Prop} {entries : List (Entry S σ)} {result : Except Halt Unit}

/-- What every attempt keeps of a scene holds in all attempts at it. -/
theorem Course.invariant
    (keep : ∀ (scene : S) (s : σ), P scene → P (Playable.attempt registry scene s).1.2)
    {step : StepInfo} {scene : S} {timer : τ} {made : Nat} {last : Option Error}
    (h : Course registry step scene timer made last entries result) (hscene : P scene) :
    ∀ a, .attempt a ∈ entries → P a.scene := by
  induction h with
  | ended move =>
      intro a ha
      rw [move.mem_attempt_iff.mp ha]
      exact hscene
  | limit move =>
      intro a ha
      rw [move.mem_attempt_iff.mp ha]
      exact hscene
  | again move rest ih =>
      intro a ha
      obtain ha | ha := List.mem_append.mp ha
      · rw [move.mem_attempt_iff.mp ha]
        exact hscene
      · exact ih (keep _ _ hscene) a ha

/-- What every attempt keeps of a scene holds of all scenes in a record. -/
theorem Courses.invariant
    (keep : ∀ (scene : S) (s : σ), P scene → P (Playable.attempt registry scene s).1.2)
    {total position : Nat} {timer : Nat → τ} {scenes : List S}
    (h : Courses registry total timer position scenes entries result)
    (hscenes : ∀ scene ∈ scenes, P scene) : ∀ a, .attempt a ∈ entries → P a.scene := by
  induction h with
  | nil => exact fun a ha => absurd ha List.not_mem_nil
  | stop course =>
      intro a ha
      have hown := Entry.attempt_mem_cons_event.mp ha
      exact course.invariant keep (hscenes _ List.mem_cons_self) a hown
  | next course others ih =>
      intro a ha
      obtain ha | ha := List.mem_append.mp ha
      · have hown := Entry.attempt_mem_cons_event.mp ha
        exact course.invariant keep (hscenes _ List.mem_cons_self) a hown
      · exact ih (fun scene hscene => hscenes scene (List.mem_cons_of_mem _ hscene)) a ha

end Invariant

/-! ## Accounts -/

/-- Where the errors in a record and its result come from, when `last` is remembered from
before. -/
structure Account (registry : Registry) (last : Option Error) (entries : List (Entry S σ))
    (result : Except Halt Unit) : Prop where
  /-- An error is reported of an attempt that is to be repeated for it. -/
  reported : ∀ (step : StepInfo) (number : Nat) (e : Error),
    .event (.attemptFailed step number e) ∈ entries →
      ∃ a, .attempt a ∈ entries ∧ a.position = step.position ∧ a.answer registry = .ok (.retry e)
  /-- An attempt that fails is the last, and its error that of the play. -/
  failing : ∀ (a : Attempt S σ) (e : Error), .attempt a ∈ entries → a.answer registry = .error e →
    ∃ step report before, step.position = a.position ∧
      result = .error (.failure (.stepFailed step e)) ∧
      entries = before ++
        [.attempt a, .event (.finished step report (some (.stepFailed step e)))]
  /-- A failure is that of an attempt, or names an error that was reported, if any. -/
  failed : ∀ err, result = .error (.failure err) →
    (∃ step e a, err = .stepFailed step e ∧ .attempt a ∈ entries ∧ a.position = step.position ∧
      a.answer registry = .error e) ∨
    ∃ step number text?, err = .retryExhausted step number text? ∧
      ∀ text, text? = some text →
        (∃ e, last = some e ∧ text = e.message) ∨
          ∃ step number e, text = e.message ∧ .event (.attemptFailed step number e) ∈ entries

namespace Account

variable {last last' : Option Error} {entries more : List (Entry S σ)} {result : Except Halt Unit}

/-- What goes on without failing adds to the account of the rest. -/
theorem append (h : Account registry last' more result)
    (hreported : ∀ (step : StepInfo) (number : Nat) (e : Error),
      .event (.attemptFailed step number e) ∈ entries →
        ∃ a, .attempt a ∈ entries ∧ a.position = step.position ∧
          a.answer registry = .ok (.retry e))
    (hfailing : ∀ (a : Attempt S σ) (e : Error), .attempt a ∈ entries →
      a.answer registry ≠ .error e)
    (hlast : ∀ e, last' = some e →
      last = some e ∨ ∃ step number, .event (.attemptFailed step number e) ∈ entries) :
    Account registry last (entries ++ more) result where
  reported step number e he := by
    obtain he | he := List.mem_append.mp he
    · obtain ⟨a, ha, hposition, hanswer⟩ := hreported step number e he
      exact ⟨a, List.mem_append_left _ ha, hposition, hanswer⟩
    · obtain ⟨a, ha, hposition, hanswer⟩ := h.reported step number e he
      exact ⟨a, List.mem_append_right _ ha, hposition, hanswer⟩
  failing a e ha hanswer := by
    obtain ha | ha := List.mem_append.mp ha
    · exact absurd hanswer (hfailing a e ha)
    · obtain ⟨step, report, before, hposition, hresult, hmore⟩ := h.failing a e ha hanswer
      exact ⟨step, report, entries ++ before, hposition, hresult, by
        rw [hmore, List.append_assoc]⟩
  failed err herr := by
    rcases h.failed err herr with ⟨step, e, a, heq, ha, hposition, hanswer⟩ |
      ⟨step, number, text?, heq, htext⟩
    · exact .inl ⟨step, e, a, heq, List.mem_append_right _ ha, hposition, hanswer⟩
    · refine .inr ⟨step, number, text?, heq, fun text hsome => ?_⟩
      obtain ⟨e, he, hmessage⟩ | ⟨step, number, e, hmessage, he⟩ := htext text hsome
      · obtain he | ⟨step, number, he⟩ := hlast e he
        · exact .inl ⟨e, he, hmessage⟩
        · exact .inr ⟨step, number, e, hmessage, List.mem_append_left _ he⟩
      · exact .inr ⟨step, number, e, hmessage, List.mem_append_right _ he⟩

/-- A play that is broken off at once has nothing to account for. -/
theorem broken : Account registry last ([] : List (Entry S σ)) (.error .limit) where
  reported step number e he := absurd he List.not_mem_nil
  failing a e ha := absurd ha List.not_mem_nil
  failed err herr := by cases herr

theorem nil : Account registry last ([] : List (Entry S σ)) (.ok ()) where
  reported step number e he := absurd he List.not_mem_nil
  failing a e ha := absurd ha List.not_mem_nil
  failed err herr := by cases herr

end Account

/-! ## One scene -/

/-- The account of the last move of a scene. -/
theorem account_of_ended {step : StepInfo} {timer : τ} {made : Nat} {last : Option Error}
    {a : Attempt S σ} {result : Except Error Unit} {entries : List (Entry S σ)}
    (h : Move registry step timer made last a (.ended result) entries)
    (ha : a.position = step.position) :
    Account registry last entries (result.mapError .failure) where
  reported step' number e he := by
    obtain ⟨rfl, hanswer⟩ := h.reported he
    exact ⟨a, h.mem_attempt_iff.mpr rfl, ha, hanswer⟩
  failing b e hb hanswer := by
    obtain rfl := h.mem_attempt_iff.mp hb
    obtain ⟨hover, elapsed, hentries⟩ := h.of_error hanswer
    cases hover
    exact ⟨step, _, [], ha.symm, rfl, hentries⟩
  failed err herr := by
    cases h with
    | @failed e elapsed answer =>
        cases herr
        exact .inl ⟨step, e, a, rfl, List.mem_cons_self, ha, answer⟩
    | done elapsed answer isDone => cases herr
    | @exhausted outcome error elapsed answer isDone next error_eq =>
        cases herr
        refine .inr ⟨step, made + 1, _, error_eq, fun text hsome => ?_⟩
        obtain ⟨e, he, rfl⟩ := Option.map_eq_some_iff.mp hsome
        obtain he | he := Move.remembered he
        · exact .inl ⟨e, he, rfl⟩
        · exact .inr ⟨step, made + 1, e, rfl, he⟩

/-- A move that goes on, before the account of the rest. -/
theorem Account.again {step : StepInfo} {timer timer' : τ} {made : Nat}
    {last last' : Option Error} {a : Attempt S σ} {entries more : List (Entry S σ)}
    {result : Except Halt Unit}
    (h : Move registry step timer made last a (.again timer' last') entries)
    (ha : a.position = step.position) (hmore : Account registry last' more result) :
    Account registry last (entries ++ more) result := by
  refine hmore.append (fun step' number e he => ?_) (fun b e hb hanswer => ?_) fun e he => ?_
  · obtain ⟨rfl, hanswer⟩ := h.reported he
    exact ⟨a, h.mem_attempt_iff.mpr rfl, ha, hanswer⟩
  · obtain rfl := h.mem_attempt_iff.mp hb
    obtain ⟨hover, _⟩ := h.of_error hanswer
    cases hover
  · cases h with
    | again answer isDone next =>
        obtain he | he := Move.remembered he
        · exact .inl he
        · exact .inr ⟨step, made + 1, he⟩

/-- **The errors of a scene** are those of its attempts. -/
theorem account_of_course {step : StepInfo} {scene : S} {timer : τ} {made : Nat}
    {last : Option Error} {entries : List (Entry S σ)} {result : Except Halt Unit}
    (h : Course registry step scene timer made last entries result) :
    Account registry last entries result := by
  induction h with
  | ended move => exact account_of_ended move rfl
  | limit move =>
      have hbroken := Account.again move rfl .broken
      rwa [List.append_nil] at hbroken
  | again move rest ih => exact .again move rfl ih

/-! ## All scenes -/

/-- That a scene was begun is neither an attempt nor the report of an error. -/
theorem Account.started {own : List (Entry S σ)} {result : Except Halt Unit}
    (h : Account registry none own result) (step : StepInfo) :
    Account registry none (.event (.started step) :: own) result := by
  change Account registry none ([.event (.started step)] ++ own) result
  refine h.append (fun step' number e he => ?_) (fun a e ha => ?_) fun e he => .inl he
  · cases List.mem_singleton.mp he
  · cases List.mem_singleton.mp ha

/-- **The errors of a play** are those of its attempts. -/
theorem account_of_courses {total position : Nat} {timer : Nat → τ} {scenes : List S}
    {entries : List (Entry S σ)} {result : Except Halt Unit}
    (h : Courses registry total timer position scenes entries result) :
    Account registry none entries result := by
  induction h with
  | nil => exact .nil
  | stop course => exact (account_of_course course).started _
  | @next position scene rest entries more result course others ih =>
      have hown := (account_of_course course).started ⟨position, total, Playable.label scene⟩
      refine ih.append hown.reported (fun a e ha hanswer => ?_) fun e he => .inl he
      obtain ⟨step, report, before, hposition, hresult, hentries⟩ := hown.failing a e ha hanswer
      cases hresult

/-! ## Whole plays -/

namespace Account

variable {entries : List (Entry S σ)} {result : Except Halt Unit} {step : StepInfo}

/-- A scene that fails outright was attempted, and its error is what the attempt answered. -/
theorem attempt_of_stepFailed (h : Account registry none entries result) {e : Error}
    (hresult : result = .error (.failure (.stepFailed step e))) :
    ∃ a, .attempt a ∈ entries ∧ a.position = step.position ∧ a.answer registry = .error e := by
  rcases h.failed _ hresult with ⟨step', e', a, heq, ha, hposition, hanswer⟩ |
    ⟨step', number, text?, heq, _⟩
  · cases heq
    exact ⟨a, ha, hposition, hanswer⟩
  · cases heq

/-- The text that a scene gives up with is that of an error that was reported. -/
theorem reported_of_retryExhausted (h : Account registry none entries result) {number : Nat}
    {text : String}
    (hresult : result = .error (.failure (.retryExhausted step number (some text)))) :
    ∃ step number e, text = Error.message e ∧ .event (.attemptFailed step number e) ∈ entries := by
  obtain ⟨step', e, a, heq, _⟩ | ⟨step', number', text?, heq, htext⟩ := h.failed _ hresult
  · cases heq
  · cases heq
    obtain ⟨e, he, _⟩ | hreported := htext text rfl
    · cases he
    · exact hreported

end Account

end StackPlaybook
