import StackPlaybook.Proofs.Play.Passage
import StackPlaybook.Proofs.Play.Trail

/-!
# StackPlaybook.Proofs.Play.Lapse

Where the time of a play goes, by a clock that only waits move.  The record says it: each
attempt takes what it takes, and each wait that a timer gave is waited out.

* `timed_of_turn` and `timed_of_persistWithin` — the clock moves by what the record says,
  and the end of a scene is reported with the time since its beginning;
* `schedule_of_course` — the time of a scene is that of its attempts and of the waits
  between them;
* `timetable_of_inOrder` — scenes in order take the times that they report, with the
  interval between one and the next.
-/

namespace StackPlaybook

variable {S τ σ : Type}

/-! ## The time in a record -/

section Lapse

variable [Clock σ] [Playable S σ]

/-- The state that the attempt left. -/
def Attempt.left (registry : Registry) (a : Attempt S σ) : σ :=
  (Playable.attempt registry a.scene a.before).2

/-- The nanoseconds that the attempt took. -/
def Attempt.spent (registry : Registry) (a : Attempt S σ) : Nat :=
  Clock.now (a.left registry) - Clock.now a.before

/-- The nanoseconds that an entry stands for: those of an attempt, or of the wait that a
timer gave. -/
def Entry.lapse (registry : Registry) : Entry S σ → Nat
  | .attempt a => a.spent registry
  | .event (.asked _ _ (some wait)) => wait.nanos
  | .event _ => 0

/-- The nanoseconds that a record stands for. -/
def lapse (registry : Registry) (entries : List (Entry S σ)) : Nat :=
  (entries.map (Entry.lapse registry)).sum

/-- The nanoseconds spent inside attempts. -/
def spent (registry : Registry) (attempts : List (Attempt S σ)) : Nat :=
  (attempts.map (Attempt.spent registry)).sum

/-- No attempt in a record sets the clock back. -/
def Forward (registry : Registry) (entries : List (Entry S σ)) : Prop :=
  ∀ a, .attempt a ∈ entries → Clock.now a.before ≤ Clock.now (a.left registry)

variable {registry : Registry} {entries more : List (Entry S σ)}

/-- What passes in a record passes in its first entry and in the others. -/
@[simp] theorem lapse_cons (x : Entry S σ) :
    lapse registry (x :: entries) = x.lapse registry + lapse registry entries := by
  simp [lapse]

/-- What passes in two records in a row is the sum. -/
@[simp] theorem lapse_append :
    lapse registry (entries ++ more) = lapse registry entries + lapse registry more := by
  simp [lapse]

/-- Time goes forward in a record just if it does in both of its parts. -/
theorem forward_append :
    Forward registry (entries ++ more) ↔ Forward registry entries ∧ Forward registry more := by
  simp only [Forward, List.mem_append]
  exact ⟨fun h => ⟨fun a ha => h a (.inl ha), fun a ha => h a (.inr ha)⟩,
    fun ⟨hl, hr⟩ a ha => ha.elim (hl a) (hr a)⟩

/-- A note takes no time. -/
@[simp] theorem lapse_noteEntries (step : StepInfo) (attempt : Nat) (outcome : Outcome) :
    lapse registry (noteEntries step attempt outcome : List (Entry S σ)) = 0 := by
  unfold noteEntries
  cases outcome.error? with
  | none => rfl
  | some e => rfl

/-! ## One scene -/

variable [Timer τ]

/-- What a time is made of: that of some attempts, and of the first waits of a timer, one
between each attempt and the next. -/
structure Schedule (registry : Registry) (timer : τ) (attempts : List (Attempt S σ)) (time : Nat) :
    Prop where
  length_waits : (Timer.firstWaits (attempts.length - 1) timer).length + 1 = attempts.length
  time_eq : time =
    Duration.total (Timer.firstWaits (attempts.length - 1) timer) + spent registry attempts

namespace Schedule

theorem single (timer : τ) (a : Attempt S σ) :
    Schedule registry timer [a] (a.spent registry) where
  length_waits := rfl
  time_eq := by simp [Duration.total, spent]

/-- An attempt and a wait before a schedule. -/
theorem cons {timer timer' : τ} {wait : Duration} {attempts : List (Attempt S σ)} {time : Nat}
    (h : Schedule registry timer' attempts time) (hnext : Timer.next timer = some (wait, timer'))
    (a : Attempt S σ) :
    Schedule registry timer (a :: attempts) (a.spent registry + wait.nanos + time) := by
  obtain ⟨k, hk⟩ : ∃ k, attempts.length = k + 1 := ⟨_, h.length_waits.symm⟩
  obtain ⟨hlength, htime⟩ := h
  rw [hk, Nat.add_sub_cancel] at hlength htime
  have hwaits : Timer.firstWaits ((a :: attempts).length - 1) timer =
      wait :: Timer.firstWaits k timer' := by
    rw [List.length_cons, Nat.add_sub_cancel, hk, Timer.firstWaits_succ_of_some k hnext]
  constructor
  · rw [hwaits, List.length_cons, hlength, List.length_cons, hk]
  · rw [hwaits, htime]
    simp only [Duration.total, spent, List.map_cons, List.sum_cons]
    omega

end Schedule

variable {step : StepInfo} {timer : τ} {made : Nat} {last : Option Error} {a : Attempt S σ}


/-- A move that ends the scene takes the time of its attempt. -/
theorem lapse_of_ended {result : Except Error Unit}
    (h : Move registry step timer made last a (.ended result) entries) :
    lapse registry entries = a.spent registry := by
  cases h with
  | failed elapsed answer => rfl
  | done elapsed answer isDone => rfl
  | exhausted elapsed answer isDone next error_eq =>
      rw [lapse_append, lapse_cons, lapse_noteEntries]
      rfl

/-- A move that goes on takes the time of its attempt and of the next wait. -/
theorem lapse_of_again {timer' : τ} {last' : Option Error}
    (h : Move registry step timer made last a (.again timer' last') entries) :
    ∃ wait, Timer.next timer = some (wait, timer') ∧
      lapse registry entries = a.spent registry + wait.nanos := by
  cases h with
  | again answer isDone next =>
      refine ⟨_, next, ?_⟩
      rw [lapse_append, lapse_cons, lapse_noteEntries]
      rfl

/-- **The time of a scene** that was played to its end is that of its attempts and of the
waits between them. -/
theorem schedule_of_course {scene : S} {limited : Except Halt Unit} {result : Except Error Unit}
    (h : Course registry step scene timer made last entries limited)
    (hended : limited = result.mapError .failure) :
    Schedule registry timer (entries.filterMap Entry.attempt?) (lapse registry entries) := by
  induction h with
  | ended move =>
      rw [move.attempts, lapse_of_ended move]
      exact .single _ _
  | limit move => cases result <;> simp [Except.mapError] at hended
  | again move rest ih =>
      obtain ⟨wait, hnext, hlapse⟩ := lapse_of_again move
      rw [List.filterMap_append, move.attempts, lapse_append, hlapse]
      exact (ih hended).cons hnext _

end Lapse

/-! ## The clock of a recorded play -/

namespace Pacing

variable [Clock σ]

/-- The clock moves by the waits, and not by being watched. -/
structure Exact (p : Pacing τ σ) : Prop where
  sleep (d : Duration) (s : σ) : Clock.now (Clock.sleep d s) = Clock.now s + d.nanos
  observe (e : StepEvent) (s : σ) : Clock.now (p.observe e s) = Clock.now s

end Pacing

/-- What is added to a record between two states of a play, where the clock has moved by
just that. -/
structure Timed [Clock σ] [Playable S σ] (registry : Registry) (r t : Recorded S σ)
    (entries : List (Entry S σ)) : Prop where
  entries_eq : t.entries = r.entries ++ entries
  now_eq : Forward registry entries → Clock.now t = Clock.now r + lapse registry entries

namespace Timed

variable [Clock σ] [Playable S σ] {registry : Registry} {r t u : Recorded S σ}
  {entries more : List (Entry S σ)} {p : Pacing τ σ}

theorem nil (r : Recorded S σ) : Timed registry r r [] :=
  ⟨(List.append_nil _).symm, fun _ => rfl⟩

/-- Entries in a row are timed one after the other. -/
theorem trans (h : Timed registry r t entries) (h' : Timed registry t u more) :
    Timed registry r u (entries ++ more) where
  entries_eq := by rw [h'.entries_eq, h.entries_eq, List.append_assoc]
  now_eq hforward := by
    obtain ⟨hl, hr⟩ := forward_append.mp hforward
    rw [h'.now_eq hr, h.now_eq hl, lapse_append, Nat.add_assoc]

/-- An event takes no time, unless it is that of a wait. -/
theorem observe (registry : Registry) (hp : p.Exact) (r : Recorded S σ) (e : StepEvent)
    (he : Entry.lapse registry (.event e : Entry S σ) = 0) :
    Timed registry r (p.recording.observe e r) [.event e] where
  entries_eq := rfl
  now_eq _ := by
    rw [lapse_cons, he]
    exact hp.observe e r.state

/-- A wait is told of before it begins. -/
theorem wait (registry : Registry) (hp : p.Exact) (r : Recorded S σ) (step : StepInfo)
    (attempts : Nat) (d : Duration) :
    Timed registry r (Clock.sleep d (p.recording.observe (.asked step attempts (some d)) r))
      [.event (.asked step attempts (some d))] where
  entries_eq := rfl
  now_eq _ := by
    have hsleep := hp.sleep d (p.observe (.asked step attempts (some d)) r.state)
    rw [hp.observe] at hsleep
    exact hsleep

theorem attempt (registry : Registry) (position : Nat) (scene : S) (r : Recorded S σ) :
    Timed registry r (Playable.attempt registry (⟨position, scene⟩ : Placed S) r).2
      [.attempt ⟨position, scene, r.state⟩] where
  entries_eq := rfl
  now_eq hforward := by
    have hle := hforward ⟨position, scene, r.state⟩ List.mem_cons_self
    exact (Nat.add_sub_of_le hle).symm

/-- What follows an attempt that is to be repeated takes no time. -/
theorem note (registry : Registry) (hp : p.Exact) (step : StepInfo) (number : Nat)
    (outcome : Outcome) (r : Recorded S σ) :
    Timed registry r (p.recording.note step number outcome r)
      (noteEntries step number outcome) := by
  unfold Pacing.note noteEntries
  cases outcome.error? with
  | none => exact .nil r
  | some e => exact .observe registry hp r _ rfl

/-- The end of a scene is reported with the time since its beginning. -/
theorem finish (registry : Registry) (hp : p.Exact) (step : StepInfo) (begun attempts : Nat)
    (error : Option Error) (r : Recorded S σ) :
    let t := p.recording.finish step begun attempts error r
    Timed registry r t [.event (.finished step ⟨attempts, Clock.now t - begun⟩ error)] := by
  intro t
  have hnow : Clock.now t = Clock.now r := hp.observe _ r.state
  rw [hnow]
  exact .observe registry hp r _ rfl

end Timed

/-- The last entry reports the end of a scene that has taken some time. -/
def Closed (step : StepInfo) (elapsed : Nat) (entries : List (Entry S σ)) : Prop :=
  ∃ front attempts error, entries = front ++ [.event (.finished step ⟨attempts, elapsed⟩ error)]

/-- What stands before the report of a scene does not change it. -/
theorem Closed.append {step : StepInfo} {elapsed : Nat} {more : List (Entry S σ)}
    (h : Closed step elapsed more) (entries : List (Entry S σ)) :
    Closed step elapsed (entries ++ more) := by
  obtain ⟨front, attempts, error, rfl⟩ := h
  exact ⟨entries ++ front, attempts, error, (List.append_assoc ..).symm⟩

namespace Pacing

variable [Clock σ] [Playable S σ] [Timer τ] {p : Pacing τ σ}

/-- **The step**: a turn takes the time that its entries say.  If it ends the scene, that is
reported with the time since its beginning. -/
theorem timed_of_turn (hp : p.Exact) (registry : Registry) (step : StepInfo) (begun : Nat)
    (scene : S) (timer : τ) (made : Nat) (last : Option Error) (r : Recorded S σ) :
    let x := p.recording.turn registry step begun (⟨step.position, scene⟩ : Placed S) timer made
      last r
    ∃ entries, Timed registry r x.2 entries ∧
      ∀ result, x.1.1 = .ended result → Closed step (Clock.now x.2 - begun) entries := by
  intro x
  have htried := Timed.attempt registry step.position scene r
  rcases hattempt : Playable.attempt registry (⟨step.position, scene⟩ : Placed S) r with
    ⟨⟨result, next⟩, t⟩
  rw [hattempt] at htried
  simp only [x, turn, hattempt]
  cases result with
  | error e =>
      have hend := Timed.finish registry hp step begun (made + 1) (some (.stepFailed step e)) t
      exact ⟨_, htried.trans hend, fun _ _ => ⟨_, _, _, rfl⟩⟩
  | ok outcome =>
      simp only
      by_cases hd : outcome.isDone = true
      · rw [if_pos hd]
        have hend := Timed.finish registry hp step begun (made + 1) none t
        exact ⟨_, htried.trans hend, fun _ _ => ⟨_, _, _, rfl⟩⟩
      · rw [if_neg hd]
        have hnoted := htried.trans (Timed.note registry hp step (made + 1) outcome t)
        cases hnext : Timer.next timer with
        | none =>
            have hasked := hnoted.trans (.observe registry hp _ (.asked step (made + 1) none) rfl)
            exact ⟨_, hasked.trans (.finish registry hp step begun (made + 1) _ _),
              fun _ _ => ⟨_, _, _, rfl⟩⟩
        | some given =>
            exact ⟨_, hnoted.trans (Timed.wait registry hp _ step (made + 1) given.1),
              fun result heq => (by cases heq)⟩

/-- **The run**: so does a scene that is attempted until it is over. -/
theorem timed_of_persistWithin (hp : p.Exact) (registry : Registry) (step : StepInfo)
    (begun n : Nat) (scene : S) (timer : τ) (made : Nat) (last : Option Error)
    (r : Recorded S σ) :
    let x := p.recording.persistWithin registry step begun n (⟨step.position, scene⟩ : Placed S)
      timer made last r
    ∃ entries, Timed registry r x.2 entries ∧
      ∀ result : Except Error Unit, x.1.1 = result.mapError .failure →
        Closed step (Clock.now x.2 - begun) entries := by
  induction n generalizing scene timer made last r with
  | zero =>
      obtain ⟨entries, htimed, hclosed⟩ :=
        timed_of_turn hp registry step begun scene timer made last r
      rcases hturn : p.recording.turn registry step begun (⟨step.position, scene⟩ : Placed S) timer
        made last r with ⟨⟨result, next⟩, t⟩
      rw [hturn] at htimed hclosed
      cases result with
      | ended result =>
          rw [persistWithin_of_ended 0 hturn]
          exact ⟨entries, htimed, fun _ _ => hclosed result rfl⟩
      | again timer' last' =>
          rw [persistWithin_zero_of_again hturn]
          exact ⟨entries, htimed, fun result heq =>
            absurd heq.symm (mapError_failure_ne_limit result)⟩
  | succ n ih =>
      obtain ⟨entries, htimed, hclosed⟩ :=
        timed_of_turn hp registry step begun scene timer made last r
      have hafter := (p.move_of_turn registry step begun scene timer made last r).1
      rcases hturn : p.recording.turn registry step begun (⟨step.position, scene⟩ : Placed S) timer
        made last r with ⟨⟨result, next⟩, t⟩
      rw [hturn] at htimed hclosed hafter
      cases result with
      | ended result =>
          rw [persistWithin_of_ended (n + 1) hturn]
          exact ⟨entries, htimed, fun _ _ => hclosed result rfl⟩
      | again timer' last' =>
          obtain rfl : next = _ := hafter
          rw [persistWithin_succ_of_again n hturn]
          obtain ⟨more, htimed', hclosed'⟩ := ih _ timer' (made + 1) last' t
          exact ⟨entries ++ more, htimed.trans htimed', fun result heq =>
            (hclosed' result heq).append entries⟩

end Pacing

/-! ## All scenes -/

theorem Closed.elapsed_eq [Playable S σ] {registry : Registry} {step : StepInfo} {elapsed : Nat}
    {entries : List (Entry S σ)} {b : Block S σ} (h : Closed step elapsed entries)
    (htold : entries.filter Entry.told = b.entries registry) : b.elapsed = elapsed := by
  obtain ⟨front, attempts, error, rfl⟩ := h
  rw [List.filter_append, List.filter_cons_of_pos rfl, List.filter_nil, Block.entries] at htold
  have hlast := (List.append_inj' htold rfl).2
  simp only [List.cons.injEq, Entry.event.injEq, StepEvent.finished.injEq,
    StepReport.mk.injEq] at hlast
  exact hlast.1.2.1.2.symm

/-- A scene that was played to its end between two states, as a block of the record and as a
time on the clock. -/
structure Stay [Clock σ] [Playable S σ] [Timer τ] (registry : Registry) (p : Pacing τ σ)
    (step : StepInfo) (result : Except Error Unit) (r t : Recorded S σ)
    (entries : List (Entry S σ)) (b : Block S σ) : Prop where
  entries_eq : t.entries = r.entries ++ entries
  position_eq : ∀ x ∈ entries, x.position = step.position
  step_eq : b.step = step
  attempts_eq : b.attempts = entries.filterMap Entry.attempt?
  error_eq : b.error = failure? result
  told : entries.filter Entry.told = b.entries registry
  schedule : Forward registry entries →
    Schedule registry (p.timer step.position) b.attempts b.elapsed
  now_eq : Forward registry entries → Clock.now t = Clock.now r + b.elapsed

/-- There are blocks just if there are scenes. -/
theorem Trail.isEmpty_eq [Playable S σ] {registry : Registry} {total position : Nat}
    {scenes : List S} {entries : List (Entry S σ)} {result : Except Error Unit}
    {blocks : List (Block S σ)} (h : Trail registry total position scenes entries result blocks) :
    blocks.isEmpty = scenes.isEmpty := by
  cases blocks with
  | nil =>
      have hcompleted : result = .ok () := by
        cases hresult : result with
        | ok u => rfl
        | error e =>
            obtain ⟨b, hlast, -⟩ := h.error e hresult
            cases hlast
      have hlength := (h.ok_iff.mp hcompleted).2
      rw [List.isEmpty_nil, List.length_eq_zero_iff.mp hlength.symm]
      rfl
  | cons b blocks =>
      obtain ⟨scene, hscene, -⟩ := h.steps 0 b rfl
      cases scenes with
      | nil => cases hscene
      | cons scene rest => rfl

/-- The times of blocks: each is that of its attempts and of the first waits of its timer,
and together with the intervals between the blocks they are the time from one state to
another. -/
structure Timetable [Clock σ] [Playable S σ] [Timer τ] (registry : Registry) (p : Pacing τ σ)
    (s t : σ) (blocks : List (Block S σ)) : Prop where
  schedule : ∀ b ∈ blocks, Schedule registry (p.timer b.step.position) b.attempts b.elapsed
  now_eq : Clock.now t = Clock.now s + (blocks.map Block.elapsed).sum +
    (blocks.length - 1) * p.interval.nanos

namespace Timetable

variable [Clock σ] [Playable S σ] [Timer τ] {registry : Registry} {p : Pacing τ σ}
  {step : StepInfo} {result : Except Error Unit} {r t : Recorded S σ} {u : σ}
  {entries : List (Entry S σ)} {b : Block S σ} {blocks : List (Block S σ)}

theorem nil (p : Pacing τ σ) (s : σ) : Timetable registry p s s ([] : List (Block S σ)) where
  schedule b hb := absurd hb List.not_mem_nil
  now_eq := by simp

/-- The time of one scene. -/
theorem single (hb : Stay registry p step result r t entries b)
    (hforward : Forward registry entries) : Timetable registry p r.state t.state [b] where
  schedule c hc := by
    obtain rfl := List.mem_singleton.mp hc
    rw [hb.step_eq]
    exact hb.schedule hforward
  now_eq := by
    have hnow : Clock.now t.state = Clock.now r.state + b.elapsed := hb.now_eq hforward
    simp [hnow]

/-- The time of a scene before that of others, which begin after the interval. -/
theorem cons (hp : p.Exact) {last : Bool}
    (hb : Stay registry p step result r t entries b)
    (hforward : Forward registry entries)
    (h : Timetable registry p (if last then t else Clock.sleep p.interval t).state u blocks)
    (hlast : blocks.isEmpty = last) : Timetable registry p r.state u (b :: blocks) where
  schedule c hc := by
    obtain rfl | hc := List.mem_cons.mp hc
    · rw [hb.step_eq]
      exact hb.schedule hforward
    · exact h.schedule c hc
  now_eq := by
    have hnow : Clock.now t.state = Clock.now r.state + b.elapsed := hb.now_eq hforward
    have hothers := h.now_eq
    subst hlast
    cases blocks with
    | nil => simpa [hnow] using hothers
    | cons c blocks =>
        have hpause : Clock.now (Clock.sleep p.interval t).state =
            Clock.now t.state + p.interval.nanos := hp.sleep p.interval t.state
        simp only [List.isEmpty_cons, Bool.false_eq_true, if_false, hpause, hnow] at hothers
        simp only [List.length_cons, List.map_cons, List.sum_cons, Nat.add_sub_cancel,
          Nat.succ_mul] at hothers ⊢
        omega

end Timetable

namespace Pacing

variable [Clock σ] [Playable S σ] [Timer τ] {p : Pacing τ σ}

/-- **A scene that comes to its end** leaves one block, and takes the time that it reports. -/
theorem stay_of_playSceneWithin (hp : p.Exact) (registry : Registry) (n total position : Nat)
    (scene : S) (r : Recorded S σ) (result : Except Error Unit)
    (hended : (p.recording.playSceneWithin n registry total position
      (⟨position, scene⟩ : Placed S) r).1.1 = result.mapError .failure) :
    ∃ entries b, Stay registry p ⟨position, total, Playable.label scene⟩ result r
      (p.recording.playSceneWithin n registry total position (⟨position, scene⟩ : Placed S) r).2
      entries b := by
  let step : StepInfo := ⟨position, total, Playable.label scene⟩
  let started := p.recording.observe (.started step) r
  have hstart : Timed registry r started [.event (.started step)] :=
    .observe registry hp r _ rfl
  have hbegun : Clock.now started = Clock.now r := hp.observe _ r.state
  obtain ⟨own, htimed, hclosed⟩ := timed_of_persistWithin hp registry step (Clock.now started) n
    scene (p.timer position) 0 none started
  obtain ⟨own', hown', hcourse⟩ := p.course_of_persistWithin registry step (Clock.now started) n
    scene (p.timer position) 0 none started
  obtain rfl : own = own' := List.append_cancel_left (htimed.entries_eq.symm.trans hown')
  have hplay : p.recording.persistWithin registry step (Clock.now started) n
      (⟨position, scene⟩ : Placed S) (p.timer position) 0 none started =
        p.recording.playSceneWithin n registry total position (⟨position, scene⟩ : Placed S) r :=
    rfl
  rw [hplay] at htimed hclosed hcourse
  obtain ⟨b, hstep, hattempts, herror, htold⟩ := block_of_course hcourse hended
  have hspell := hstart.trans htimed
  have hreport := ((hclosed result hended).append [.event (.started step)]).elapsed_eq htold
  have hnow : Forward registry (.event (.started step) :: own) →
      b.elapsed = lapse registry own := by
    intro hforward
    rw [hreport, hspell.now_eq hforward, hbegun, Nat.add_sub_cancel_left]
    exact Nat.zero_add _
  refine ⟨_, b, hspell.entries_eq, hcourse.begun, hstep, hattempts, herror, htold, ?_, ?_⟩
  · intro hforward
    rw [hattempts, hnow hforward]
    exact schedule_of_course hcourse hended
  · intro hforward
    rw [hnow hforward, hspell.now_eq hforward]
    exact congrArg _ (Nat.zero_add _)

omit [Clock σ] [Playable S σ] in
theorem isEmpty_place (position : Nat) (scenes : List S) :
    (place position scenes).isEmpty = scenes.isEmpty := by cases scenes <;> rfl

/-- **Scenes in order take the time that they report**, and the interval between each and
the next. -/
theorem timetable_of_inOrder (hp : p.Exact) (registry : Registry) (n total : Nat)
    (scenes : List S) (position : Nat) (r : Recorded S σ) {result : Except Error Unit}
    (hended : (p.recording.inOrder (p.recording.playSceneWithin n registry total) position
      (place position scenes) r).1.1 = result.mapError .failure) :
    let x := p.recording.inOrder (p.recording.playSceneWithin n registry total) position
      (place position scenes) r
    ∃ entries blocks, x.2.entries = r.entries ++ entries ∧
      Trail registry total position scenes entries result blocks ∧
      (Forward registry entries → Timetable registry p r.state x.2.state blocks) := by
  induction scenes generalizing position r with
  | nil =>
      obtain rfl : .ok () = result := mapError_failure_inj hended
      exact ⟨[], [], (List.append_nil _).symm, .nil registry total position, fun _ => .nil p _⟩
  | cons scene rest ih =>
      have hstay := stay_of_playSceneWithin hp registry n total position scene r
      rcases hplay : p.recording.playSceneWithin n registry total position
        (⟨position, scene⟩ : Placed S) r with ⟨⟨ended, next⟩, t⟩
      rw [hplay] at hstay
      rw [place] at hended ⊢
      cases ended with
      | error halt =>
          rw [inOrder_of_error _ hplay] at hended ⊢
          obtain ⟨entries, b, hb⟩ := hstay result hended
          cases result with
          | ok u => cases hended
          | error e =>
              refine ⟨entries, [b], hb.entries_eq, .stop hb.step_eq hb.attempts_eq hb.error_eq
                hb.told fun a ha => hb.position_eq _ (Entry.mem_of_attempt ha), fun hforward => ?_⟩
              exact .single hb hforward
      | ok u =>
          obtain ⟨entries, b, hb⟩ := hstay (.ok ()) rfl
          rw [inOrder_of_ok _ hplay] at hended ⊢
          obtain ⟨more, blocks, hmore, htrail, htime⟩ := ih (position + 1) _ hended
          -- Later attempts have later positions, which the course of the others tells.
          obtain ⟨more', hmore', hcourses⟩ := p.courses_of_inOrder registry n total rest
            (position + 1)
            (if (place (position + 1) rest).isEmpty then t else Clock.sleep p.recording.interval t)
          obtain rfl : more = more' := List.append_cancel_left (hmore.symm.trans hmore')
          refine ⟨entries ++ more, b :: blocks, ?_, ?_, fun hforward => ?_⟩
          · rw [hmore, entries_pause, hb.entries_eq, List.append_assoc]
          · exact htrail.cons hb.step_eq hb.attempts_eq hb.error_eq hb.told
              (fun a ha => hb.position_eq _ (Entry.mem_of_attempt ha))
              fun a ha => hcourses.le_position _ (Entry.mem_of_attempt ha)
          · obtain ⟨hown, hothers⟩ := forward_append.mp hforward
            have hempty : blocks.isEmpty = (place (position + 1) rest).isEmpty := by
              rw [htrail.isEmpty_eq, isEmpty_place]
            exact .cons hp hb hown (htime hothers) hempty

/-- **The time of a whole play** that comes to an end is that of its blocks, and of the
intervals between them. -/
theorem timed_playWithin (hp : p.Exact) (n : Nat) (registry : Registry) (scenes : List S) (s : σ)
    {result : Except Error Unit}
    (hended : (p.playWithin n registry scenes s).1.1 = result.mapError .failure)
    (hforward : Forward registry (p.chronicleWithin n registry scenes s)) :
    ∃ blocks,
      Trail registry scenes.length 1 scenes (p.chronicleWithin n registry scenes s) result blocks ∧
      Timetable registry p s (p.playWithin n registry scenes s).2 blocks := by
  have hstate := p.state_recordingWithin n registry scenes s
  rw [← result_recordingWithin] at hended
  rw [chronicleWithin] at hforward ⊢
  rw [playWithin, length_place] at hended hforward hstate ⊢
  obtain ⟨entries, blocks, hentries, htrail, htime⟩ :=
    timetable_of_inOrder hp registry n scenes.length scenes 1 ⟨s, []⟩ hended
  rw [List.nil_append] at hentries
  rw [hentries] at hforward ⊢
  have htimetable := htime hforward
  rw [hstate] at htimetable
  exact ⟨blocks, htrail, htimetable⟩

end Pacing

end StackPlaybook
