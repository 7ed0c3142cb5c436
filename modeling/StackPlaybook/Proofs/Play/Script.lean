import Mathlib.Data.Nat.Find
import StackPlaybook.Proofs.Play.Course
import StackPlaybook.Proofs.Waits

/-!
# StackPlaybook.Proofs.Play.Script

What a play comes to when every scene answers by a script: the `n`-th attempt at it gives
the `n`-th answer, whatever happened elsewhere.  How often a script is attempted, and how
it ends, can then be told from the script and the number of waits of its own timer:

* `verdict_of_course` — a scene on its own ends with its verdict, after its tries;
* `play_scripts` — a play ends with the first verdict that is a failure, after the tries
  of all scenes up to that one.
-/

namespace StackPlaybook

variable {τ σ : Type}

/-- A state that is only a clock, which moves by the waits and not otherwise. -/
structure Ticks where
  nanos : Nat
  deriving DecidableEq, Repr

instance : Clock Ticks where
  now := Ticks.nanos
  sleep d s := ⟨s.nanos + d.nanos⟩

/-! ## Answers -/

/-- Whether an answer ends a scene whatever its timer. -/
def settles : Except Error Outcome → Bool
  | .ok outcome => outcome.isDone
  | .error _ => true

/-- The error for which the attempt is to be repeated. -/
def retryError : Except Error Outcome → Option Error
  | .ok outcome => outcome.error?
  | .error _ => none

/-! ## Scripts -/

/-- A scene whose attempts, counted from 0, are written down: what each answers, and what
it does to the state. -/
structure Script (σ : Type) where
  label : String
  answer : Registry → Nat → Except Error Outcome
  effect : Registry → Nat → σ → σ

namespace Script

/-- The script that gives the answers of a list, leaves the state alone, and has nothing
to show when the list is used up. -/
def ofList (label : String) (answers : List (Except Error Outcome)) : Script σ :=
  ⟨label, fun _ k => answers.getD k (.ok .pending), fun _ _ s => s⟩

/-- What is left of a script after `n` attempts. -/
def drop (n : Nat) (script : Script σ) : Script σ where
  label := script.label
  answer registry k := script.answer registry (n + k)
  effect registry k := script.effect registry (n + k)

instance : Playable (Script σ) σ where
  label := label
  attempt registry script s :=
    ((script.answer registry 0, script.drop 1), script.effect registry 0 s)

@[simp] theorem drop_zero (script : Script σ) : script.drop 0 = script := by
  simp [drop]

@[simp] theorem drop_drop (script : Script σ) (m n : Nat) :
    (script.drop m).drop n = script.drop (m + n) := by
  simp [drop, Nat.add_assoc]

/-- The last attempt, counted from 0, when the timer gives `w` waits: the first that
settles the scene, and no later than the attempt after the last wait. -/
def lastAttempt (registry : Registry) (w : Nat) (script : Script σ) : Nat :=
  Nat.find (p := fun k => settles (script.answer registry k) = true ∨ k = w) ⟨w, .inr rfl⟩

/-- The most recent error among the first `n` answers for which an attempt is to be
repeated. -/
def recentError (registry : Registry) (n : Nat) (script : Script σ) : Option Error :=
  ((List.range n).filterMap fun k => retryError (script.answer registry k)).getLast?

/-- How a script ends when its timer gives `w` waits. -/
def verdict (registry : Registry) (step : StepInfo) (w : Nat) (script : Script σ) :
    Except Error Unit :=
  match script.answer registry (script.lastAttempt registry w) with
  | .error e => .error (.stepFailed step e)
  | .ok .done => .ok ()
  | .ok _ =>
    .error (.retryExhausted step (w + 1) ((script.recentError registry (w + 1)).map (·.message)))

/-- The attempts made at a script when its timer gives `w` waits, as the position of the
scene with the answer. -/
def tries (registry : Registry) (position w : Nat) (script : Script σ) :
    List (Nat × Except Error Outcome) :=
  (List.range (script.lastAttempt registry w + 1)).map fun k => (position, script.answer registry k)

/-! ## The last attempt -/

variable {registry : Registry} {w : Nat} {script : Script σ}

/-- The last attempt is the first that settles the scene or that no wait follows. -/
theorem lastAttempt_eq {k : Nat} (h : settles (script.answer registry k) = true ∨ k = w)
    (hk : k ≤ w) (before : ∀ j < k, settles (script.answer registry j) = false) :
    script.lastAttempt registry w = k := by
  refine (Nat.find_eq_iff _).mpr ⟨h, fun j hj => ?_⟩
  rintro (hsettles | rfl)
  · rw [before j hj] at hsettles
    cases hsettles
  · omega

/-- Attempts that do not settle the scene come before it, as long as there are waits. -/
theorem le_lastAttempt {k : Nat} (hk : k ≤ w)
    (before : ∀ j < k, settles (script.answer registry j) = false) :
    k ≤ script.lastAttempt registry w := by
  refine (Nat.le_find_iff _ k).mpr fun j hj => ?_
  rintro (hsettles | rfl)
  · rw [before j hj] at hsettles
    cases hsettles
  · omega

@[simp] theorem recentError_zero : script.recentError registry 0 = none := rfl

/-- An answer that asks for another attempt is remembered in place of those before it. -/
theorem recentError_succ (n : Nat) :
    script.recentError registry (n + 1) =
      (retryError (script.answer registry n)).or (script.recentError registry n) := by
  unfold recentError
  rw [List.range_succ, List.filterMap_append, List.getLast?_append]
  cases h : retryError (script.answer registry n) with
  | none => simp [h]
  | some e => simp [h]

/-! ## One scene -/

section Scene

variable [FiniteTimer τ] {step : StepInfo} {timer timer' : τ} {made : Nat} {last : Option Error}
  {s : σ} {entries : List (Entry (Script σ) σ)}

theorem answer_drop (position : Nat) :
    (⟨position, script.drop made, s⟩ : Attempt (Script σ) σ).answer registry =
      script.answer registry made := rfl

/-- **The loop is left** with the verdict, at the last attempt. -/
theorem verdict_of_ended {result : Except Error Unit}
    (h : Move registry step timer made (script.recentError registry made)
      ⟨step.position, script.drop made, s⟩ (.ended result) entries)
    (before : ∀ j < made, settles (script.answer registry j) = false) :
    script.lastAttempt registry (made + (FiniteTimer.waits timer).length) = made ∧
      script.verdict registry step (made + (FiniteTimer.waits timer).length) = result := by
  have hle : made ≤ made + (FiniteTimer.waits timer).length := Nat.le_add_right _ _
  cases h with
  | failed elapsed answer =>
      rw [answer_drop] at answer
      have hlast := lastAttempt_eq (.inl (by rw [answer]; rfl)) hle before
      refine ⟨hlast, ?_⟩
      rw [verdict, hlast, answer]
  | @done outcome elapsed answer isDone =>
      rw [answer_drop] at answer
      have hlast := lastAttempt_eq (.inl (by rw [answer]; exact isDone)) hle before
      refine ⟨hlast, ?_⟩
      rw [verdict, hlast, answer]
      cases outcome with
      | done => rfl
      | pending => cases isDone
      | retry e => cases isDone
  | @exhausted outcome error elapsed answer isDone next error_eq =>
      rw [answer_drop] at answer
      rw [FiniteTimer.waits_of_none next, List.length_nil, Nat.add_zero] at hle ⊢
      have hlast := lastAttempt_eq (.inr rfl) hle before
      refine ⟨hlast, ?_⟩
      rw [verdict, hlast, answer, recentError_succ, answer, error_eq]
      cases outcome with
      | done => cases isDone
      | pending => rfl
      | retry e => rfl

/-- **The loop goes on** with one attempt more behind it, one wait less before it, and
the most recent error up to date. -/
theorem next_of_again
    (h : Move registry step timer made (script.recentError registry made)
      ⟨step.position, script.drop made, s⟩ (.again timer' last) entries) :
    settles (script.answer registry made) = false ∧
      last = script.recentError registry (made + 1) ∧
      made + (FiniteTimer.waits timer).length =
        made + 1 + (FiniteTimer.waits timer').length := by
  cases h with
  | again answer isDone next =>
      rw [answer_drop] at answer
      refine ⟨by rw [answer]; exact isDone, by rw [recentError_succ, answer]; rfl, ?_⟩
      rw [FiniteTimer.waits_of_some next, List.length_cons]
      omega

/-- **A scene on its own**: it ends with its verdict, after its tries. -/
theorem verdict_of_course {scene : Script σ} {result : Except Halt Unit}
    (h : Course registry step scene timer made last entries result)
    (hended : result ≠ .error .limit)
    (hscene : scene = script.drop made) (hlast : last = script.recentError registry made)
    (before : ∀ j < made, settles (script.answer registry j) = false) :
    result = (script.verdict registry step
        (made + (FiniteTimer.waits timer).length)).mapError .failure ∧
      Entry.answers registry entries =
        (List.range' made (script.lastAttempt registry
            (made + (FiniteTimer.waits timer).length) + 1 - made)).map
          fun k => (step.position, script.answer registry k) := by
  -- The counter, the timer and the script move together: `made` answers are behind, none of
  -- which settled the scene, and the timer has as many waits left as are missing from `w`.
  induction h with
  | ended move =>
      subst hscene hlast
      obtain ⟨hend, hverdict⟩ := verdict_of_ended move before
      rw [hend, hverdict, move.answers, Nat.add_sub_cancel_left]
      exact ⟨rfl, rfl⟩
  | limit move => exact absurd rfl hended
  | @again scene timer timer' made last last' s entries more result move rest ih =>
      subst hscene hlast
      obtain ⟨hsettles, hrecent, hwaits⟩ := next_of_again move
      have hbefore : ∀ j < made + 1, settles (script.answer registry j) = false := by
        intro j hj
        obtain hlt | rfl := Nat.lt_succ_iff_lt_or_eq.mp hj
        · exact before j hlt
        · exact hsettles
      obtain ⟨hresult, hanswers⟩ := ih hended (drop_drop script made 1) hrecent hbefore
      have hlater : made + 1 ≤ script.lastAttempt registry
          (made + 1 + (FiniteTimer.waits timer').length) :=
        le_lastAttempt (Nat.le_add_right _ _) hbefore
      rw [hwaits]
      refine ⟨hresult, ?_⟩
      rw [Entry.answers_append, move.answers, hanswers]
      generalize script.lastAttempt registry _ = k at hlater ⊢
      rw [show k + 1 - made = (k + 1 - (made + 1)) + 1 by omega, List.range'_succ, List.map_cons]
      rfl

/-- The same for a scene that was not attempted yet. -/
theorem verdict_of_fresh {result : Except Halt Unit}
    (h : Course registry step script timer 0 none entries result)
    (hended : result ≠ .error .limit) :
    result = (script.verdict registry step (FiniteTimer.waits timer).length).mapError .failure ∧
      Entry.answers registry entries =
        script.tries registry step.position (FiniteTimer.waits timer).length := by
  have hall := verdict_of_course h hended (drop_zero script).symm recentError_zero.symm
    fun j hj => absurd hj (Nat.not_lt_zero j)
  rw [Nat.zero_add, Nat.sub_zero, ← List.range_eq_range'] at hall
  exact hall

end Scene

/-! ## All scenes -/

/-- How each of the scripts from a position on ends. -/
def verdicts [FiniteTimer τ] (registry : Registry) (total : Nat) (timer : Nat → τ) (position : Nat)
    (scripts : List (Script σ)) : List (Except Error Unit) :=
  scripts.mapIdx fun i script =>
    script.verdict registry ⟨i + position, total, script.label⟩
      (FiniteTimer.waits (timer (i + position))).length

/-- The attempts made at each of the scripts from a position on, should it be reached. -/
def allTries [FiniteTimer τ] (registry : Registry) (timer : Nat → τ) (position : Nat)
    (scripts : List (Script σ)) : List (List (Nat × Except Error Outcome)) :=
  scripts.mapIdx fun i script =>
    script.tries registry (i + position) (FiniteTimer.waits (timer (i + position))).length

/-- The first failure among verdicts. -/
structure FirstFailure (verdicts : List (Except Error Unit)) (i : Nat) (e : Error) : Prop where
  fails : verdicts[i]? = some (.error e)
  before : ∀ j < i, verdicts[j]? = some (.ok ())

namespace FirstFailure

variable {verdicts : List (Except Error Unit)} {i j : Nat} {e f : Error}

/-- Of two first failures none comes before the other. -/
theorem not_lt (hi : FirstFailure verdicts i e) (hj : FirstFailure verdicts j f) : ¬ i < j := by
  intro hlt
  have hok := hj.before i hlt
  rw [hi.fails] at hok
  cases hok

/-- There is one first failure at most. -/
theorem unique (hi : FirstFailure verdicts i e) (hj : FirstFailure verdicts j f) :
    i = j ∧ e = f := by
  have hnot := hi.not_lt hj
  have hnot' := hj.not_lt hi
  have hij : i = j := by omega
  subst hij
  have hsome := hi.fails.symm.trans hj.fails
  cases hsome
  exact ⟨rfl, rfl⟩

/-- Where there is a first failure, not all verdicts are good. -/
theorem not_all_ok (h : FirstFailure verdicts i e) : ¬ ∀ v ∈ verdicts, v = .ok () := by
  intro hall
  have hok := hall _ (List.mem_of_getElem? h.fails)
  cases hok

/-- A good verdict in front moves the first failure by one. -/
theorem cons (h : FirstFailure verdicts i e) : FirstFailure (.ok () :: verdicts) (i + 1) e where
  fails := h.fails
  before j hj := by
    cases j with
    | zero => rfl
    | succ j => exact h.before j (by omega)

end FirstFailure

section Scenes

variable [FiniteTimer τ] {total position : Nat} {timer : Nat → τ}

/-- The first verdict is that of the first script. -/
theorem verdicts_cons (rest : List (Script σ)) :
    verdicts registry total timer position (script :: rest) =
      script.verdict registry ⟨position, total, script.label⟩
          (FiniteTimer.waits (timer position)).length ::
        verdicts registry total timer (position + 1) rest := by
  simp only [verdicts, List.mapIdx_cons, Nat.zero_add, Nat.succ_add_eq_add_succ]

/-- The first tries are those of the first script. -/
theorem allTries_cons (rest : List (Script σ)) :
    allTries registry timer position (script :: rest) =
      script.tries registry position (FiniteTimer.waits (timer position)).length ::
        allTries registry timer (position + 1) rest := by
  simp only [allTries, List.mapIdx_cons, Nat.zero_add, Nat.succ_add_eq_add_succ]

/-- **Scenes in order**: either all verdicts are good and all tries are made, or the
scenes end with the first failure, after the tries up to there. -/
theorem verdicts_of_courses {scripts : List (Script σ)} {entries : List (Entry (Script σ) σ)}
    {result : Except Halt Unit} (h : Courses registry total timer position scripts entries result)
    (hended : result ≠ .error .limit) :
    (result = .ok () ∧ (∀ v ∈ verdicts registry total timer position scripts, v = .ok ()) ∧
      Entry.answers registry entries = (allTries registry timer position scripts).flatten) ∨
    ∃ i e, FirstFailure (verdicts registry total timer position scripts) i e ∧
      result = .error (.failure e) ∧
      Entry.answers registry entries =
        ((allTries registry timer position scripts).take (i + 1)).flatten := by
  induction h with
  | nil => exact .inl ⟨rfl, fun v hv => absurd hv List.not_mem_nil, rfl⟩
  | @stop position script rest entries halt course =>
      obtain ⟨hresult, hanswers⟩ := verdict_of_fresh course hended
      rw [verdicts_cons, allTries_cons]
      refine .inr ?_
      cases hverdict : script.verdict registry ⟨position, total, Playable.label script⟩
          (FiniteTimer.waits (timer position)).length with
      | ok u => rw [hverdict] at hresult; cases hresult
      | error e =>
          rw [hverdict] at hresult
          refine ⟨0, e, ⟨rfl, fun j hj => absurd hj (Nat.not_lt_zero j)⟩,
            hresult, ?_⟩
          rw [List.take_succ_cons, List.take_zero, List.flatten_cons, List.flatten_nil,
            List.append_nil]
          exact hanswers
  | @next position script rest entries more result course others ih =>
      obtain ⟨hresult, hanswers⟩ := verdict_of_fresh course (by simp)
      have hverdict : script.verdict registry ⟨position, total, Playable.label script⟩
          (FiniteTimer.waits (timer position)).length = .ok () := by
        have hok : (.ok () : Except Error Unit).mapError Halt.failure = _ := hresult
        exact (mapError_failure_inj hok).symm
      have hsplit : Entry.answers registry
          (.event (.started ⟨position, total, Playable.label script⟩) :: entries ++ more) =
            script.tries registry position (FiniteTimer.waits (timer position)).length ++
              Entry.answers registry more := by
        rw [Entry.answers_append, ← hanswers]
        rfl
      rw [verdicts_cons, allTries_cons, hsplit]
      obtain ⟨hok, hall, hmore⟩ | ⟨i, e, hfirst, herror, hmore⟩ := ih hended
      · refine .inl ⟨hok, ?_, ?_⟩
        · intro v hv
          obtain rfl | hv := List.mem_cons.mp hv
          · exact hverdict
          · exact hall v hv
        · rw [List.flatten_cons, hmore]
      · refine .inr ⟨i + 1, e, ?_, herror, ?_⟩
        · have hcons := hfirst.cons
          rw [← hverdict] at hcons
          exact hcons
        · rw [List.take_succ_cons, List.flatten_cons, hmore]

end Scenes

end Script

/-! ## Whole plays -/

namespace Pacing

variable {S ε : Type} [Clock σ]

/-- What is done about the scenes after one that fails in every state makes no
difference. -/
theorem inOrder_congr_of_fails {p p' : Pacing τ σ} (hinterval : p'.interval = p.interval)
    {one one' : Nat → S → σ → (Except ε Unit × S) × σ} {scenes : List S} {i : Nat} {scene : S}
    (position : Nat) (s : σ) (hscene : scenes[i]? = some scene)
    (hfails : ∀ s, ∃ e, (one (i + position) scene s).1.1 = .error e)
    (hone : ∀ j ≤ i, one' (j + position) = one (j + position)) :
    p'.inOrder one' position scenes s = p.inOrder one position scenes s := by
  induction scenes generalizing i position s with
  | nil => cases hscene
  | cons first rest ih =>
      have hfirst : one' position = one position := by
        have h := hone 0 (Nat.zero_le i)
        rwa [Nat.zero_add] at h
      rcases hplay : one position first s with ⟨⟨result, next⟩, t⟩
      have hplay' : one' position first s = ((result, next), t) := by rw [hfirst, hplay]
      cases i with
      | zero =>
          obtain ⟨e, he⟩ := hfails s
          obtain rfl : first = scene := Option.some.inj hscene
          rw [Nat.zero_add, hplay] at he
          obtain rfl : result = .error e := he
          rw [inOrder_of_error rest hplay, inOrder_of_error rest hplay']
      | succ i =>
          cases result with
          | error e => rw [inOrder_of_error rest hplay, inOrder_of_error rest hplay']
          | ok u =>
              have hrest := ih (position + 1) (if rest.isEmpty then t else Clock.sleep p.interval t)
                hscene (by rwa [← Nat.succ_add_eq_add_succ]) fun j hj => by
                  rw [← Nat.succ_add_eq_add_succ]
                  exact hone (j + 1) (by omega)
              rw [inOrder_of_ok rest hplay, inOrder_of_ok rest hplay', hinterval, hrest]

variable [FiniteTimer τ]

/-- Once a scene has its timer, the timers of other scenes do not matter to it. -/
theorem persist_timer [Playable S σ] (p : Pacing τ σ) (timer : Nat → τ) (registry : Registry)
    (step : StepInfo) (begun : Nat) (scene : S) (rest : τ) (made : Nat) (last : Option Error)
    (s : σ) :
    ({ p with timer := timer } : Pacing τ σ).persist registry step begun scene rest made last s =
      p.persist registry step begun scene rest made last s := by
  fun_induction p.persist registry step begun scene rest made last s with
  | case1 scene rest made last s result next t hturn =>
      have hsame : ({ p with timer := timer } : Pacing τ σ).turn registry step begun scene rest made
          last s = ((.ended result, next), t) := hturn
      exact persist_of_ended hsame
  | case2 scene rest made last s rest' last' next t hturn ih =>
      have hsame : ({ p with timer := timer } : Pacing τ σ).turn registry step begun scene rest made
          last s = ((.again rest' last', next), t) := hturn
      rw [persist_of_again hsame]
      exact ih

/-- A scene asks no timer but its own. -/
theorem playScene_timer [Playable S σ] (p : Pacing τ σ) {timer : Nat → τ} (registry : Registry)
    (total : Nat) {position : Nat} (h : timer position = p.timer position) :
    ({ p with timer := timer } : Pacing τ σ).playScene (S := S) registry total position =
      p.playScene registry total position := by
  funext scene s
  rw [playScene, playScene]
  simp only [h]
  exact p.persist_timer timer registry _ _ scene _ 0 none _

/-- A script that is played ends with its verdict, in any state. -/
theorem playScene_script (p : Pacing τ σ) (registry : Registry) (total position : Nat)
    (script : Script σ) (s : σ) :
    (p.playScene registry total position script s).1.1 =
      script.verdict registry ⟨position, total, script.label⟩
        (FiniteTimer.waits (p.timer position)).length := by
  obtain ⟨entries, hcourse⟩ := p.course_of_playScene registry total position script s
  have hverdict := (Script.verdict_of_fresh hcourse (mapError_failure_ne_limit _)).1
  exact mapError_failure_inj hverdict

/-- Only the timers up to the first failure matter. -/
theorem play_timer (p : Pacing τ σ) (registry : Registry) {scripts : List (Script σ)} (s : σ)
    {timer : Nat → τ} {i : Nat} {e : Error}
    (hfirst : Script.FirstFailure (Script.verdicts registry scripts.length p.timer 1 scripts) i e)
    (htimer : ∀ position ≤ i + 1, timer position = p.timer position) :
    ({ p with timer := timer } : Pacing τ σ).play registry scripts s =
      p.play registry scripts s := by
  have hfails := hfirst.fails
  rw [Script.verdicts, List.getElem?_mapIdx, Option.map_eq_some_iff] at hfails
  obtain ⟨script, hscript, hverdict⟩ := hfails
  have hinterval : ({ p with timer := timer } : Pacing τ σ).interval = p.interval := rfl
  unfold play
  refine inOrder_congr_of_fails hinterval 1 s hscript (fun t => ⟨e, ?_⟩) fun j hj => ?_
  · rw [playScene_script]
    exact hverdict
  · exact p.playScene_timer registry _ (htimer _ (by omega))

/-- **A play of scripts, in full.**  The play succeeds just when all verdicts are good,
and then every script had its tries.  Otherwise it ends with the first failure: the
scripts up to that one had their tries, in order, and the timers of the others did not
matter, since none was asked for. -/
theorem play_scripts (p : Pacing τ σ) (registry : Registry) (scripts : List (Script σ)) (s : σ) :
    let result := (p.play registry scripts s).1.1
    let answers := Entry.answers registry (p.chronicle registry scripts s)
    let verdicts := Script.verdicts registry scripts.length p.timer 1 scripts
    let tries := Script.allTries registry p.timer 1 scripts
    (result = .ok () ↔ ∀ v ∈ verdicts, v = .ok ()) ∧
      ((∀ v ∈ verdicts, v = .ok ()) → answers = tries.flatten) ∧
      ∀ i e, Script.FirstFailure verdicts i e →
        result = .error e ∧ answers = (tries.take (i + 1)).flatten ∧
          ∀ timer : Nat → τ, (∀ position ≤ i + 1, timer position = p.timer position) →
            ({ p with timer := timer } : Pacing τ σ).play registry scripts s =
              p.play registry scripts s := by
  intro result answers verdicts tries
  have hcases := Script.verdicts_of_courses (p.courses_of_play registry scripts s)
    (mapError_failure_ne_limit result)
  refine ⟨⟨fun hok => ?_, fun hall => ?_⟩, fun hall => ?_, fun i e hi => ?_⟩
  · obtain ⟨-, hall, -⟩ | ⟨i, e, -, herror, -⟩ := hcases
    · exact hall
    · rw [show (p.play registry scripts s).1.1 = .ok () from hok] at herror
      cases herror
  · obtain ⟨hok, -, -⟩ | ⟨i, e, hfirst, -, -⟩ := hcases
    · exact mapError_failure_inj hok
    · exact absurd hall hfirst.not_all_ok
  · obtain ⟨-, -, hanswers⟩ | ⟨i, e, hfirst, -, -⟩ := hcases
    · exact hanswers
    · exact absurd hall hfirst.not_all_ok
  · obtain ⟨-, hall, -⟩ | ⟨j, f, hfirst, herror, hanswers⟩ := hcases
    · exact absurd hall hi.not_all_ok
    · obtain ⟨rfl, rfl⟩ := hi.unique hfirst
      exact ⟨mapError_failure_inj herror, hanswers, fun timer htimer =>
        p.play_timer registry s hi htimer⟩

end Pacing

end StackPlaybook
