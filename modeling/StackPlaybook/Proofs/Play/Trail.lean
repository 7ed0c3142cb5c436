import StackPlaybook.Proofs.Play.Script

/-!
# StackPlaybook.Proofs.Play.Trail

What an observer is told of a play that comes to an end.  Its events are one block after
the other, a block for each scene that was begun:

* `trail_of_course` — a scene adds one block, closed by its result;
* `trail_of_courses` — scenes in order add their blocks in order;
* `trail_of_playWithin` — so every play that ends leaves a trail, whatever its timers.

The attempts are kept among the events, so that a block also says when each of its
events comes.
-/

namespace StackPlaybook

variable {S τ σ : Type}

/-! ## Blocks -/

/-- Whether an entry is an attempt or told to the observer; that a timer was asked is
neither. -/
def Entry.told : Entry S σ → Bool
  | .event (.asked ..) => false
  | _ => true

/-- A scene that was begun, with the attempts at it and how it ended. -/
structure Block (S σ : Type) where
  step : StepInfo
  attempts : List (Attempt S σ)
  elapsed : Nat
  error : Option Error

variable [Playable S σ]

/-- The attempt with a number, and the event that follows it where it is to be repeated
for an error. -/
def Attempt.entries (registry : Registry) (step : StepInfo) (number : Nat) (a : Attempt S σ) :
    List (Entry S σ) :=
  match a.answer registry with
  | .ok (.retry e) => [.attempt a, .event (.attemptFailed step number e)]
  | _ => [.attempt a]

/-- Attempts with the events that follow them, where the first has a number. -/
def numbered (registry : Registry) (step : StepInfo) (number : Nat)
    (attempts : List (Attempt S σ)) : List (Entry S σ) :=
  (attempts.zipIdx number).flatMap fun (a, number) => a.entries registry step number

/-- All that a block stands for: the beginning of the scene, its attempts counted from 1,
and one report of its end, which gives their number. -/
def Block.entries (registry : Registry) (b : Block S σ) : List (Entry S σ) :=
  .event (.started b.step) :: numbered registry b.step 1 b.attempts ++
    [.event (.finished b.step ⟨b.attempts.length, b.elapsed⟩ b.error)]

/-! ## One scene -/

section Scene

variable [Timer τ] {registry : Registry} {step : StepInfo} {timer timer' : τ} {made : Nat}
  {last last' : Option Error} {a : Attempt S σ} {entries : List (Entry S σ)}

/-- The first attempt has the first number, and the others go on from there. -/
theorem numbered_cons (number : Nat) (rest : List (Attempt S σ)) :
    numbered registry step number (a :: rest) =
      a.entries registry step number ++ numbered registry step (number + 1) rest := by
  rw [numbered, List.zipIdx_cons, List.flatMap_cons]
  rfl

/-- An attempt that fails is told without a note. -/
theorem Attempt.entries_of_error {e : Error} (number : Nat) (h : a.answer registry = .error e) :
    a.entries registry step number = [.attempt a] := by
  rw [Attempt.entries, h]

/-- An attempt that does not fail is told with its note, if it has one. -/
theorem Attempt.entries_of_ok {outcome : Outcome} (number : Nat)
    (h : a.answer registry = .ok outcome) :
    a.entries registry step number = .attempt a :: noteEntries step number outcome := by
  rw [Attempt.entries, h]
  cases outcome <;> rfl

omit [Playable S σ] in
/-- Notes are told. -/
theorem told_noteEntries (number : Nat) (outcome : Outcome) :
    (noteEntries step number outcome : List (Entry S σ)).filter Entry.told =
      noteEntries step number outcome := by
  cases outcome <;> rfl

/-- A move that ends the scene tells of its attempt and closes the block. -/
theorem told_of_ended {result : Except Error Unit}
    (h : Move registry step timer made last a (.ended result) entries) :
    ∃ elapsed, entries.filter Entry.told =
      a.entries registry step (made + 1) ++
        [.event (.finished step ⟨made + 1, elapsed⟩ (failure? result))] := by
  cases h with
  | failed elapsed answer =>
      refine ⟨elapsed, ?_⟩
      rw [Attempt.entries_of_error (made + 1) answer]
      rfl
  | @done outcome elapsed answer isDone =>
      refine ⟨elapsed, ?_⟩
      rw [Attempt.entries_of_ok (made + 1) answer]
      cases outcome with
      | done => rfl
      | pending => cases isDone
      | retry e => cases isDone
  | exhausted elapsed answer isDone next error_eq =>
      refine ⟨elapsed, ?_⟩
      rw [Attempt.entries_of_ok (made + 1) answer, List.filter_append, List.filter_cons_of_pos rfl,
        told_noteEntries]
      rfl

/-- A move that goes on tells of its attempt only. -/
theorem told_of_again (h : Move registry step timer made last a (.again timer' last') entries) :
    entries.filter Entry.told = a.entries registry step (made + 1) := by
  cases h with
  | again answer isDone next =>
      rw [Attempt.entries_of_ok (made + 1) answer, List.filter_append, List.filter_cons_of_pos rfl,
        told_noteEntries]
      exact List.append_nil _

/-- **A scene is one block**: its attempts in order, each with its number and what is told
of it, and then its result. -/
theorem told_of_course {scene : S} {limited : Except Halt Unit} {result : Except Error Unit}
    (h : Course registry step scene timer made last entries limited)
    (hended : limited = result.mapError .failure) :
    ∃ elapsed, entries.filter Entry.told =
      numbered registry step (made + 1) (entries.filterMap Entry.attempt?) ++
        [.event (.finished step
          ⟨made + (entries.filterMap Entry.attempt?).length, elapsed⟩ (failure? result))] := by
  induction h with
  | ended move =>
      obtain rfl := mapError_failure_inj hended
      obtain ⟨elapsed, htold⟩ := told_of_ended move
      refine ⟨elapsed, ?_⟩
      rw [htold, move.attempts, numbered_cons]
      simp [numbered]
  | limit move => cases result <;> simp [Except.mapError] at hended
  | again move rest ih =>
      obtain ⟨elapsed, htold⟩ := ih hended
      refine ⟨elapsed, ?_⟩
      rw [List.filter_append, List.filterMap_append, told_of_again move, htold, move.attempts,
        List.singleton_append, numbered_cons, List.length_cons]
      simp [Nat.add_assoc, Nat.add_comm 1]

/-- The block of a scene that was played to its end. -/
theorem block_of_course {scene : S} {limited : Except Halt Unit} {result : Except Error Unit}
    (h : Course registry step scene timer 0 none entries limited)
    (hended : limited = result.mapError .failure) :
    ∃ b : Block S σ, b.step = step ∧ b.attempts = entries.filterMap Entry.attempt? ∧
      b.error = failure? result ∧
      (.event (.started step) :: entries).filter Entry.told = b.entries registry := by
  obtain ⟨elapsed, htold⟩ := told_of_course h hended
  refine ⟨⟨step, entries.filterMap Entry.attempt?, elapsed, failure? result⟩, rfl, rfl, rfl, ?_⟩
  rw [List.filter_cons_of_pos rfl, htold, Nat.zero_add, Nat.zero_add]
  rfl

end Scene

/-! ## All scenes -/

/-- The blocks of a play of scenes that came to an end, as they stand in its record. -/
structure Trail (registry : Registry) (total position : Nat) (scenes : List S)
    (entries : List (Entry S σ)) (result : Except Error Unit) (blocks : List (Block S σ)) :
    Prop where
  told : entries.filter Entry.told = blocks.flatMap (Block.entries registry)
  /-- The blocks are those of the first scenes, in order. -/
  steps : ∀ (i : Nat) (b : Block S σ), blocks[i]? = some b →
    ∃ scene, scenes[i]? = some scene ∧ b.step = ⟨i + position, total, Playable.label scene⟩
  /-- A block has all the attempts that were made at its scene. -/
  attempts : ∀ b ∈ blocks,
    b.attempts = (entries.filterMap Entry.attempt?).filter fun a => a.position = b.step.position
  errors : ∀ b ∈ blocks.dropLast, b.error = none
  ok_iff : result = .ok () ↔ (∀ b ∈ blocks, b.error = none) ∧ blocks.length = scenes.length
  error : ∀ e, result = .error e → ∃ b, blocks.getLast? = some b ∧ b.error = some e

namespace Trail

variable {registry : Registry} {total position : Nat} {scene : S} {rest : List S}
  {entries more : List (Entry S σ)} {result : Except Error Unit} {b : Block S σ}
  {blocks : List (Block S σ)}

theorem nil (registry : Registry) (total position : Nat) :
    Trail registry total position ([] : List S) ([] : List (Entry S σ)) (.ok ()) [] where
  told := rfl
  steps i b hb := by cases hb
  attempts b hb := absurd hb List.not_mem_nil
  errors b hb := absurd hb List.not_mem_nil
  ok_iff := ⟨fun _ => ⟨fun b hb => absurd hb List.not_mem_nil, rfl⟩, fun _ => rfl⟩
  error e he := by cases he

/-- The trail of a scene that failed. -/
theorem stop {e : Error} (hstep : b.step = ⟨position, total, Playable.label scene⟩)
    (hattempts : b.attempts = entries.filterMap Entry.attempt?) (herror : b.error = some e)
    (htold : entries.filter Entry.told = b.entries registry)
    (hposition : ∀ a ∈ entries.filterMap Entry.attempt?, a.position = position) :
    Trail registry total position (scene :: rest) entries (.error e) [b] where
  told := by rw [htold, List.flatMap_singleton]
  steps i c hc := by
    cases i with
    | zero =>
        obtain rfl := Option.some.inj hc
        exact ⟨scene, rfl, by rw [hstep, Nat.zero_add]⟩
    | succ i => cases hc
  attempts c hc := by
    obtain rfl := List.mem_singleton.mp hc
    rw [hattempts, hstep, List.filter_eq_self.mpr]
    exact fun a ha => decide_eq_true (hposition a ha)
  errors c hc := absurd hc List.not_mem_nil
  ok_iff := by
    refine ⟨fun h => (by cases h), fun ⟨hall, _⟩ => ?_⟩
    rw [hall b List.mem_cons_self] at herror
    cases herror
  error f hf := ⟨b, rfl, by cases hf; exact herror⟩

omit [Playable S σ] in
/-- Attempts of later scenes have later positions. -/
theorem attempts_own (hposition : ∀ a ∈ entries.filterMap Entry.attempt?, a.position = position)
    (hlater : ∀ a ∈ more.filterMap Entry.attempt?, position + 1 ≤ a.position) :
    ((entries ++ more).filterMap Entry.attempt?).filter (fun a => a.position = position) =
      entries.filterMap Entry.attempt? := by
  have hown : (entries.filterMap Entry.attempt?).filter (fun a => a.position = position) =
      entries.filterMap Entry.attempt? :=
    List.filter_eq_self.mpr fun a ha => decide_eq_true (hposition a ha)
  have hnone : (more.filterMap Entry.attempt?).filter (fun a => a.position = position) = [] := by
    refine List.filter_eq_nil_iff.mpr fun a ha hpos => ?_
    have hle := hlater a ha
    rw [of_decide_eq_true hpos] at hle
    exact absurd hle (Nat.not_succ_le_self _)
  rw [List.filterMap_append, List.filter_append, hown, hnone, List.append_nil]

omit [Playable S σ] in
/-- Entries about one scene have no attempts at a later one. -/
theorem attempts_later {later : Nat}
    (hposition : ∀ a ∈ entries.filterMap Entry.attempt?, a.position = position)
    (hlater : position < later) :
    ((entries ++ more).filterMap Entry.attempt?).filter (fun a => a.position = later) =
      (more.filterMap Entry.attempt?).filter (fun a => a.position = later) := by
  have hnone : (entries.filterMap Entry.attempt?).filter (fun a => a.position = later) = [] := by
    refine List.filter_eq_nil_iff.mpr fun a ha hpos => ?_
    have heq := of_decide_eq_true hpos
    rw [hposition a ha] at heq
    omega
  rw [List.filterMap_append, List.filter_append, hnone, List.nil_append]

/-- The trail of a scene that completed, before that of the others. -/
theorem cons (htrail : Trail registry total (position + 1) rest more result blocks)
    (hstep : b.step = ⟨position, total, Playable.label scene⟩)
    (hattempts : b.attempts = entries.filterMap Entry.attempt?) (herror : b.error = none)
    (htold : entries.filter Entry.told = b.entries registry)
    (hposition : ∀ a ∈ entries.filterMap Entry.attempt?, a.position = position)
    (hlater : ∀ a ∈ more.filterMap Entry.attempt?, position + 1 ≤ a.position) :
    Trail registry total position (scene :: rest) (entries ++ more) result (b :: blocks) where
  told := by rw [List.filter_append, htold, htrail.told, List.flatMap_cons]
  steps i c hc := by
    cases i with
    | zero =>
        obtain rfl := Option.some.inj hc
        exact ⟨scene, rfl, by rw [hstep, Nat.zero_add]⟩
    | succ i =>
        obtain ⟨scene', hscene', hc'⟩ := htrail.steps i c hc
        exact ⟨scene', hscene', by rw [hc', Nat.succ_add_eq_add_succ]⟩
  attempts c hc := by
    obtain rfl | hc := List.mem_cons.mp hc
    · rw [hstep, attempts_own hposition hlater, hattempts]
    · obtain ⟨i, hi⟩ := List.mem_iff_getElem?.mp hc
      obtain ⟨scene', _, hc'⟩ := htrail.steps i c hi
      have hafter : position < c.step.position := by
        rw [hc']
        simp only
        omega
      rw [attempts_later hposition hafter, htrail.attempts c hc]
  errors c hc := by
    cases blocks with
    | nil => exact absurd hc List.not_mem_nil
    | cons b' blocks =>
        obtain rfl | hc := List.mem_cons.mp hc
        · exact herror
        · exact htrail.errors c hc
  ok_iff := by
    rw [htrail.ok_iff, List.forall_mem_cons, List.length_cons, List.length_cons,
      Nat.add_right_cancel_iff]
    exact ⟨fun ⟨hall, hlen⟩ => ⟨⟨herror, hall⟩, hlen⟩, fun ⟨⟨_, hall⟩, hlen⟩ => ⟨hall, hlen⟩⟩
  error e he := by
    obtain ⟨c, hlast, hc⟩ := htrail.error e he
    exact ⟨c, by rw [List.getLast?_cons, hlast]; rfl, hc⟩

end Trail

/-- **Scenes in order leave a trail**, one block after the other up to the first failure. -/
theorem trail_of_courses [Timer τ] {registry : Registry} {total position : Nat} {timer : Nat → τ}
    {scenes : List S} {entries : List (Entry S σ)} {limited : Except Halt Unit}
    {result : Except Error Unit}
    (h : Courses registry total timer position scenes entries limited)
    (hended : limited = result.mapError .failure) :
    ∃ blocks, Trail registry total position scenes entries result blocks := by
  induction h with
  | nil =>
      obtain rfl : .ok () = result := mapError_failure_inj hended
      exact ⟨[], .nil registry total _⟩
  | stop course =>
      obtain ⟨b, hstep, hattempts, herror, htold⟩ := block_of_course course hended
      cases result with
      | ok u => cases hended
      | error e =>
          exact ⟨[b], .stop hstep hattempts herror htold fun a ha =>
            course.position_eq _ (Entry.mem_of_attempt ha)⟩
  | next course others ih =>
      obtain ⟨blocks, htrail⟩ := ih hended
      have hcompleted : .ok () = (.ok () : Except Error Unit).mapError Halt.failure := rfl
      obtain ⟨b, hstep, hattempts, herror, htold⟩ := block_of_course course hcompleted
      exact ⟨b :: blocks, htrail.cons hstep hattempts herror htold
        (fun a ha => course.position_eq _ (Entry.mem_of_attempt ha))
        fun a ha => others.le_position _ (Entry.mem_of_attempt ha)⟩

/-! ## Whole plays -/

namespace Pacing

variable [Clock σ]

/-- **The observer's trail.**  A play that comes to an end, whatever its timers, has told
its observer one block for each scene that it began, and the last block has its failure.
A finite timer brings every play to an end (`playWithin_eq`); for others the limit is any
that the play did not meet. -/
theorem trail_of_playWithin [Timer τ] (n : Nat) (p : Pacing τ σ) (registry : Registry)
    (scenes : List S) (s : σ) {result : Except Error Unit}
    (hended : (p.playWithin n registry scenes s).1.1 = result.mapError .failure) :
    ∃ blocks, Trail registry scenes.length 1 scenes (p.chronicleWithin n registry scenes s) result
      blocks :=
  trail_of_courses (p.courses_of_playWithin n registry scenes s) hended

/-- A script that is done after a wait, and one that never is. -/
theorem trail_of_two_scripts :
    let p : Pacing (List Duration) Ticks := ⟨defaultInterval, fun _ => [.ofSecs 1], fun _ s => s⟩
    let registry := Registry.empty "orders" "eu-west-1" "123456789012"
    let slow := Error.assertion "not yet"
    let scripts := [Script.ofList "publish" [.ok .pending, .ok .done],
      Script.ofList "wait" [.ok (.retry slow)]]
    ∃ blocks, Trail registry 2 1 scripts (p.chronicleWithin 1 registry scripts ⟨0⟩)
      (.error (.retryExhausted ⟨2, 2, "wait"⟩ 2 (some slow.message))) blocks := by
  intro p registry slow scripts
  exact trail_of_playWithin 1 p registry scripts ⟨0⟩ rfl

/-- The same for a play with finite timers. -/
theorem trail_of_play [FiniteTimer τ] (p : Pacing τ σ) (registry : Registry) (scenes : List S)
    (s : σ) :
    ∃ blocks, Trail registry scenes.length 1 scenes (p.chronicle registry scenes s)
      (p.play registry scenes s).1.1 blocks :=
  trail_of_courses (p.courses_of_play registry scenes s) rfl

end Pacing

end StackPlaybook
