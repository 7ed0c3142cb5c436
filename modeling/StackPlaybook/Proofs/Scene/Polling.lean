import StackPlaybook.Proofs.Play.Progress
import StackPlaybook.Proofs.Scene.Expectation
import StackPlaybook.Proofs.Scene.Once

/-!
# StackPlaybook.Proofs.Scene.Polling

A polled command is run until it does what is expected of it, and no longer.

* `tried_attempt` — an attempt whose command can be rendered runs it once, and is done just if
  the run meets the expectation;
* `polled_of_course` — so the attempts at the scene end with the first run that does, or with
  that after the last wait;
* `stops_at_match` — which says of the results that the command would give, one after the other,
  how many of them are asked for and how the play goes on.
-/

namespace StackPlaybook

open Scene

variable {S τ σ : Type}

/-! ## Runs -/

/-- A run of a command that does what is expected. -/
def Hits (expect : Expectation) (command : String) (run : Except String Finished) : Prop :=
  ∃ ran, ranOf command run = .ok ran ∧ expect.Matches ran

/-- A run that does not, with the error that describes it: the shell could not be started, or an
expectation is not met. -/
inductive Misses (expect : Expectation) (command : String) :
    Except String Finished → Error → Prop
  | unstarted (reason : String) : Misses expect command (.error reason)
      (.operation "shell" ("failed to execute '" ++ command ++ "': " ++ reason))
  | unmet {run : Except String Finished} {ran : Ran} {e : Error}
      (started : ranOf command run = .ok ran) (unmet : expect.Unmet ran e) :
      Misses expect command run e

section Runs

variable {expect : Expectation} {command : String} {run : Except String Finished} {e : Error}

theorem Misses.not_hits (h : Misses expect command run e) : ¬ Hits expect command run := by
  rintro ⟨ran, hran, hmatches⟩
  cases h with
  | unstarted reason => cases hran
  | unmet started unmet =>
      obtain rfl := Except.ok.inj (started.symm.trans hran)
      exact unmet.not_matches hmatches

end Runs

/-- What an attempt answers for a run. -/
inductive Tried (expect : Expectation) (command : String) (run : Except String Finished) :
    Except Error Outcome → Prop
  | hit (hit : Hits expect command run) : Tried expect command run (.ok .done)
  | miss {e : Error} (miss : Misses expect command run e) : Tried expect command run (.ok (.retry e))

theorem Tried.done_iff {expect : Expectation} {command : String} {run : Except String Finished}
    {answer : Except Error Outcome} (h : Tried expect command run answer) :
    answer = .ok .done ↔ Hits expect command run := by
  cases h with
  | hit hit => exact iff_of_true rfl hit
  | miss miss => exact iff_of_false nofun miss.not_hits

/-! ## One attempt -/

section Attempt

variable [Environment σ] {registry : Registry} {poll : ShellPoll} {command : String}

/-- **One attempt** runs the rendered command once, and answers for the run. -/
theorem tried_attempt (h : poll.command.render registry = .ok command) (s : σ) :
    ∃ run, Scene.calls registry (.shellPoll poll) s = [.spawn "sh" ["-c", command] run] ∧
      Tried poll.expect command run (attempt registry (.shellPoll poll) s).1.1 := by
  have hconduct := conduct_attempt registry (.shellPoll poll) s
  generalize Scene.calls registry (.shellPoll poll) s = calls at hconduct ⊢
  generalize (attempt registry (.shellPoll poll) s).1.1 = answer at hconduct ⊢
  cases hconduct with
  | unrendered text =>
      rw [h] at text
      cases text
  | @failed command' run e text started =>
      obtain rfl := Except.ok.inj (h.symm.trans text)
      cases run with
      | ok f => cases started
      | error reason =>
          obtain rfl := Except.error.inj started
          exact ⟨_, rfl, .miss (.unstarted reason)⟩
  | @ran command' run ran text started =>
      obtain rfl := Except.ok.inj (h.symm.trans text)
      refine ⟨run, rfl, ?_⟩
      unfold ShellPoll.verdict
      cases hcheck : poll.expect.check ran with
      | ok u => exact .hit ⟨ran, started, Expectation.check_eq_ok_iff.mp hcheck⟩
      | error e => exact .miss (.unmet started (Expectation.unmet_of_check hcheck))

/-- A command that cannot be rendered is not run. -/
theorem calls_of_unrendered {e : Error} (h : poll.command.render registry = .error e) (s : σ) :
    Scene.calls registry (.shellPoll poll) s = [] := by
  have hconduct := conduct_attempt registry (.shellPoll poll) s
  generalize Scene.calls registry (.shellPoll poll) s = calls at hconduct ⊢
  generalize (attempt registry (.shellPoll poll) s).1.1 = answer at hconduct
  cases hconduct with
  | unrendered text => rfl
  | failed text started => rw [h] at text; cases text
  | ran text started => rw [h] at text; cases text

end Attempt

/-! ## All attempts -/

/-- How the runs of a command go on after `made` of them, with so many waits left: up to the
first that meets the expectation, or to the one after the last wait. -/
inductive Polled (expect : Expectation) (command : String) (step : StepInfo) :
    (made waits : Nat) → List (Except String Finished) → Except Halt Unit → Prop
  | matched {made waits : Nat} {run : Except String Finished} (hit : Hits expect command run) :
      Polled expect command step made waits [run] (.ok ())
  | exhausted {made : Nat} {run : Except String Finished} {e : Error}
      (miss : Misses expect command run e) :
      Polled expect command step made 0 [run]
        (.error (.failure (.retryExhausted step (made + 1) (some e.message))))
  | again {made waits : Nat} {run : Except String Finished} {e : Error}
      {runs : List (Except String Finished)} {result : Except Halt Unit}
      (miss : Misses expect command run e)
      (rest : Polled expect command step (made + 1) waits runs result) :
      Polled expect command step made (waits + 1) (run :: runs) result

/-- An attempt at the scene that ran the command once, with what the run left behind. -/
structure Heard [Environment σ] [Playable S σ] (registry : Registry) (poll : ShellPoll)
    (command : String) (a : Attempt (Scene σ ⊕ S) σ) (run : Except String Finished) : Prop where
  scene : a.scene = .inl (.shellPoll poll)
  calls : Scene.calls registry (.shellPoll poll) a.before = [.spawn "sh" ["-c", command] run]
  tried : Tried poll.expect command run (a.answer registry)

section Course

variable [Environment σ] [Playable S σ] {registry : Registry} {poll : ShellPoll} {command : String}

theorem exists_heard (h : poll.command.render registry = .ok command) (position : Nat) (s : σ) :
    ∃ run, Heard registry poll command
      (⟨position, .inl (.shellPoll poll), s⟩ : Attempt (Scene σ ⊕ S) σ) run := by
  obtain ⟨run, hcalls, htried⟩ := tried_attempt h s
  exact ⟨run, rfl, hcalls, htried⟩

/-- **All attempts** at the scene run the command once each, and end with the first run that meets
the expectation, or after the last wait. -/
theorem polled_of_course [FiniteTimer τ] (hrender : poll.command.render registry = .ok command)
    {step : StepInfo} {timer : τ} {made : Nat} {last : Option Error}
    {own : List (Entry (Scene σ ⊕ S) σ)} {ended : Except Halt Unit}
    (h : Course registry step (.inl (.shellPoll poll)) timer made last own ended)
    (hlimit : ended ≠ .error .limit) :
    ∃ runs, List.Forall₂ (Heard registry poll command) (own.filterMap Entry.attempt?) runs ∧
      Polled poll.expect command step made (FiniteTimer.waits timer).length runs ended := by
  generalize hscene : (.inl (.shellPoll poll) : Scene σ ⊕ S) = scene at h
  induction h with
  | @ended scene timer made last s result entries move =>
      subst hscene
      obtain ⟨run, hheard⟩ := exists_heard (S := S) hrender step.position s
      refine ⟨[run], by rw [move.attempts]; exact .cons hheard .nil, ?_⟩
      have htried := hheard.tried
      cases move with
      | failed elapsed answer => rw [answer] at htried; cases htried
      | done elapsed answer isDone =>
          rw [answer] at htried
          cases htried with
          | hit hit => exact .matched hit
          | miss miss => cases isDone
      | exhausted elapsed answer isDone next error_eq =>
          rw [answer] at htried
          cases htried with
          | hit hit => cases isDone
          | miss miss =>
              rw [FiniteTimer.waits_of_none next, error_eq]
              exact .exhausted miss
  | limit move => exact absurd rfl hlimit
  | @again scene timer timer' made last last' s entries more result move rest ih =>
      subst hscene
      obtain ⟨run, hheard⟩ := exists_heard (S := S) hrender step.position s
      obtain ⟨runs, hruns, hpolled⟩ := ih hlimit rfl
      refine ⟨run :: runs, ?_, ?_⟩
      · rw [List.filterMap_append, move.attempts]
        exact .cons hheard hruns
      · have htried := hheard.tried
        cases move with
        | again answer isDone next =>
            rw [answer] at htried
            cases htried with
            | hit hit => cases isDone
            | miss miss =>
                rw [FiniteTimer.waits_of_some next]
                exact .again miss hpolled

/-- No attempt at a scene whose command cannot be rendered makes a call. -/
theorem silent_of_course [Timer τ] {e : Error} (hrender : poll.command.render registry = .error e)
    {step : StepInfo} {timer : τ} {made : Nat} {last : Option Error}
    {own : List (Entry (Scene σ ⊕ S) σ)} {ended : Except Halt Unit}
    (h : Course registry step (.inl (.shellPoll poll)) timer made last own ended)
    (a : Attempt (Scene σ ⊕ S) σ) (ha : .attempt a ∈ own) :
    a.scene = .inl (.shellPoll poll) ∧ Scene.calls registry (.shellPoll poll) a.before = [] := by
  refine ⟨?_, calls_of_unrendered hrender a.before⟩
  refine Course.invariant (P := (· = .inl (.shellPoll poll))) (fun scene s hscene => ?_) h rfl a ha
  subst hscene
  rfl

end Course

/-! ## Results one after the other -/

section Results

variable {expect : Expectation} {command : String} {step : StepInfo}
  {results : Nat → Except String Finished}

/-- How many of the results that a command would give are asked for, and how the scene ends: the
first that meets the expectation is the last, if it comes within the waits. -/
inductive Settled (expect : Expectation) (command : String) (step : StepInfo) (made waits : Nat)
    (results : Nat → Except String Finished) : Nat → Except Halt Unit → Prop
  | matched {n : Nat} (earlier : ∀ j < n, ¬ Hits expect command (results j)) (within : n ≤ waits)
      (hit : Hits expect command (results n)) :
      Settled expect command step made waits results (n + 1) (.ok ())
  | exhausted {e : Error} (earlier : ∀ j < waits, ¬ Hits expect command (results j))
      (miss : Misses expect command (results waits) e) :
      Settled expect command step made waits results (waits + 1)
        (.error (.failure (.retryExhausted step (made + waits + 1) (some e.message))))

/-- Runs that give the results in order stop as the results have it. -/
theorem settled_of_polled {made waits : Nat} {runs : List (Except String Finished)}
    {result : Except Halt Unit} (h : Polled expect command step made waits runs result)
    (hruns : runs = (List.range runs.length).map results) :
    Settled expect command step made waits results runs.length result := by
  induction h generalizing results with
  | @matched made waits run hit =>
      obtain rfl : run = results 0 := by simpa using hruns
      exact .matched nofun (Nat.zero_le waits) hit
  | @exhausted made run e miss =>
      obtain rfl : run = results 0 := by simpa using hruns
      exact .exhausted nofun miss
  | @again made waits run e runs result miss rest ih =>
      rw [List.length_cons, List.range_succ_eq_map, List.map_cons, List.map_map] at hruns
      obtain ⟨rfl, hrest⟩ := List.cons.inj hruns
      have hfirst := miss.not_hits
      have hearlier {n : Nat} (h : ∀ j < n, ¬ Hits expect command (results (j + 1))) :
          ∀ j < n + 1, ¬ Hits expect command (results j) := by
        intro j hj
        cases j with
        | zero => exact hfirst
        | succ j => exact h j (Nat.lt_of_succ_lt_succ hj)
      have hsettled := ih hrest
      rw [List.length_cons]
      generalize runs.length = n at hsettled ⊢
      cases hsettled with
      | matched earlier within hit =>
          exact .matched (hearlier earlier) (Nat.succ_le_succ within) hit
      | exhausted earlier last =>
          have hmade : made + 1 + waits = made + (waits + 1) := by omega
          rw [hmade]
          exact .exhausted (hearlier earlier) last

namespace Settled

variable {made waits count k : Nat} {ended : Except Halt Unit}

/-- The result that meets the expectation is the first one that does. -/
theorem hit_iff (h : Settled expect command step made waits results count ended) :
    k < count ∧ Hits expect command (results k) ↔
      k ≤ waits ∧ Hits expect command (results k) ∧ ∀ j < k, ¬ Hits expect command (results j) := by
  constructor
  · rintro ⟨hk, hhits⟩
    cases h with
    | @matched n earlier within hit =>
        have hkn : k ≤ n := Nat.lt_succ_iff.mp hk
        exact ⟨hkn.trans within, hhits, fun j hj => earlier j (by omega)⟩
    | exhausted earlier miss =>
        exact ⟨Nat.lt_succ_iff.mp hk, hhits, fun j hj => earlier j (by omega)⟩
  · rintro ⟨hk, hhits, hbefore⟩
    refine ⟨?_, hhits⟩
    cases h with
    | @matched n earlier within hit =>
        have hkn : ¬ n < k := fun hlt => hbefore n hlt hit
        omega
    | exhausted earlier miss => omega

/-- There are no results asked for after it. -/
theorem count_eq (h : Settled expect command step made waits results count ended)
    (hk : k < count) (hhits : Hits expect command (results k)) : count = k + 1 := by
  cases h with
  | @matched n earlier within hit =>
      have hkn : ¬ k < n := fun hlt => earlier k hlt hhits
      omega
  | exhausted earlier miss =>
      have hlast : ¬ k < waits := fun hlt => earlier k hlt hhits
      obtain rfl : k = waits := by omega
      exact absurd hhits miss.not_hits

/-- Where no result meets the expectation, all of them are asked for, and the last one is told. -/
theorem of_none (h : Settled expect command step made waits results count ended)
    (hnone : ∀ k ≤ waits, ¬ Hits expect command (results k)) :
    count = waits + 1 ∧ ∃ e, Misses expect command (results waits) e ∧
      ended = .error (.failure (.retryExhausted step (made + waits + 1) (some e.message))) := by
  cases h with
  | matched earlier within hit => exact absurd hit (hnone _ within)
  | exhausted earlier miss => exact ⟨rfl, _, miss, rfl⟩

end Settled

end Results

/-- What a polled command comes to if its results are these, one after the other.  Attempts are
counted from 0. -/
structure StopsAtMatch [Playable S σ] (registry : Registry) (expect : Expectation)
    (command : String) (step : StepInfo) (waits : Nat) (attempts : List (Attempt S σ))
    (results : Nat → Except String Finished) (result : Except Error Unit) : Prop where
  /-- An attempt is done just if its result is the first to meet the expectation, and comes within
  the waits. -/
  done_iff : ∀ k, (∃ a, attempts[k]? = some a ∧ a.answer registry = .ok .done) ↔
    k ≤ waits ∧ Hits expect command (results k) ∧ ∀ j < k, ¬ Hits expect command (results j)
  /-- There is none after it. -/
  no_more : ∀ k a, attempts[k]? = some a → a.answer registry = .ok .done → attempts.length = k + 1
  /-- Without one the play fails after the last wait, and tells what the last result lacks. -/
  exhausted : (∀ k ≤ waits, ¬ Hits expect command (results k)) →
    attempts.length = waits + 1 ∧ ∃ e, Misses expect command (results waits) e ∧
      result = .error (.retryExhausted step (waits + 1) (some e.message))
  /-- It does not fail by the scene otherwise. -/
  unmatched : ∀ e, result = .error e → e.step? = some step →
    ∀ k ≤ waits, ¬ Hits expect command (results k)

section Attempts

variable [Environment σ] [Playable S σ] {registry : Registry} {poll : ShellPoll} {command : String}
  {attempts : List (Attempt (Scene σ ⊕ S) σ)} {runs : List (Except String Finished)}
  {results : Nat → Except String Finished}

/-- The attempts that are done are those whose result meets the expectation. -/
theorem done_iff_of_heard (h : List.Forall₂ (Heard registry poll command) attempts runs)
    (hruns : runs = (List.range runs.length).map results) (k : Nat) :
    (∃ a, attempts[k]? = some a ∧ a.answer registry = .ok .done) ↔
      k < attempts.length ∧ Hits poll.expect command (results k) := by
  have hheard (hk : k < attempts.length) : Heard registry poll command attempts[k] (results k) := by
    have hk' : k < runs.length := h.length_eq ▸ hk
    have hrun : runs[k] = results k := by
      have hget : runs[k]? = ((List.range runs.length).map results)[k]? := congrArg (·[k]?) hruns
      simpa [hk'] using hget
    rw [← hrun]
    exact h.get hk hk'
  constructor
  · rintro ⟨a, ha, hdone⟩
    obtain ⟨hk, rfl⟩ := List.getElem?_eq_some_iff.mp ha
    exact ⟨hk, (hheard hk).tried.done_iff.mp hdone⟩
  · rintro ⟨hk, hhits⟩
    exact ⟨attempts[k], List.getElem?_eq_getElem hk, (hheard hk).tried.done_iff.mpr hhits⟩

/-- What becomes of the play, from how the scene ends. -/
theorem stopsAtMatch_of_settled {step : StepInfo} {waits : Nat} {ended : Except Halt Unit}
    {result : Except Error Unit} (h : List.Forall₂ (Heard registry poll command) attempts runs)
    (hruns : runs = (List.range runs.length).map results)
    (hsettled : Settled poll.expect command step 0 waits results attempts.length ended)
    (hstop : ∀ e, ended = .error (.failure e) → result = .error e)
    (hundone : ∀ e, result = .error e → e.step? = some step →
      ∀ a ∈ attempts, a.answer registry ≠ .ok .done) :
    StopsAtMatch registry poll.expect command step waits attempts results result := by
  have hdone := done_iff_of_heard h hruns
  have hfirst (k : Nat) := (hdone k).trans hsettled.hit_iff
  constructor
  case done_iff => exact hfirst
  case no_more =>
    intro k a ha hanswer
    obtain ⟨hk, hhits⟩ := (hdone k).mp ⟨a, ha, hanswer⟩
    exact hsettled.count_eq hk hhits
  case exhausted =>
    intro hnone
    obtain ⟨hcount, e, hmiss, hended⟩ := hsettled.of_none hnone
    rw [Nat.zero_add] at hended
    exact ⟨hcount, e, hmiss, hstop _ hended⟩
  case unmatched =>
    intro e he hstep k
    -- the first result that meets the expectation would be that of an attempt
    induction k using Nat.strongRecOn with
    | ind k ih =>
        intro hk hhits
        obtain ⟨a, ha, hanswer⟩ :=
          (hfirst k).mpr ⟨hk, hhits, fun j hj => ih j hj (hj.le.trans hk)⟩
        exact hundone e he hstep a (List.mem_of_getElem? ha) hanswer

/-- The attempts at a scene that was begun, and what they come to for the play. -/
theorem stopsAtMatch_of_course [FiniteTimer τ]
    (hrender : poll.command.render registry = .ok command) {step : StepInfo} {timer : τ}
    {own : List (Entry (Scene σ ⊕ S) σ)} {ended : Except Halt Unit} {result : Except Error Unit}
    (h : Course registry step (.inl (.shellPoll poll)) timer 0 none own ended)
    (hstop : ∀ halt, ended = .error halt → result.mapError .failure = .error halt)
    (hundone : ∀ e, result = .error e → e.step? = some step →
      ∀ a ∈ own.filterMap Entry.attempt?, a.answer registry ≠ .ok .done) :
    ∃ runs, List.Forall₂ (Heard registry poll command) (own.filterMap Entry.attempt?) runs ∧
      ∀ results, runs = (List.range runs.length).map results →
        StopsAtMatch registry poll.expect command step (FiniteTimer.waits timer).length
          (own.filterMap Entry.attempt?) results result := by
  have hlimit : ended ≠ .error .limit := fun heq =>
    mapError_failure_ne_limit result (hstop _ heq)
  obtain ⟨runs, hheard, hpolled⟩ := polled_of_course hrender h hlimit
  refine ⟨runs, hheard, fun results hruns => ?_⟩
  have hsettled := settled_of_polled hpolled hruns
  rw [← hheard.length_eq] at hsettled
  exact stopsAtMatch_of_settled hheard hruns hsettled
    (fun e heq => mapError_failure_inj (hstop _ heq)) hundone

end Attempts

/-! ## Whole plays -/

/-- What a play has to do with a polled command: it fails by an earlier scene, or the command
cannot be rendered and nothing is run, or each attempt runs the rendered command once, and the
results decide how many there are. -/
inductive PolledUntilMatch [Environment σ] [Playable S σ] (registry : Registry) (step : StepInfo)
    (poll : ShellPoll) (waits : Nat) (record : List (Entry (Scene σ ⊕ S) σ))
    (result : Except Error Unit) : Prop where
  | skipped {e : Error} {earlier : StepInfo} (about : Entry.about step.position record = [])
      (failed : result = .error e) (by_step : e.step? = some earlier)
      (before : earlier.position < step.position)
  | unrendered {e : Error} (text : poll.command.render registry = .error e)
      (silent : ∀ a, .attempt a ∈ Entry.about step.position record →
        a.scene = .inl (.shellPoll poll) ∧ Scene.calls registry (.shellPoll poll) a.before = [])
  | rendered {command : String} {runs : List (Except String Finished)}
      (text : poll.command.render registry = .ok command)
      (heard : List.Forall₂ (Heard registry poll command)
        ((Entry.about step.position record).filterMap Entry.attempt?) runs)
      (stops : ∀ results : Nat → Except String Finished,
        runs = (List.range runs.length).map results →
          StopsAtMatch registry poll.expect command step waits
            ((Entry.about step.position record).filterMap Entry.attempt?) results result)

namespace Pacing

variable [Environment σ] [Playable S σ] [FiniteTimer τ]

/-- **A polled command stops at the first match**, whatever its template and its expectation, its
timer, its company, and the results that it gives. -/
theorem stops_at_match (p : Pacing τ σ) (registry : Registry) (scenes : List (Scene σ ⊕ S)) (s : σ)
    {i : Nat} {poll : ShellPoll} (hscene : scenes[i]? = some (.inl (.shellPoll poll))) :
    PolledUntilMatch registry ⟨i + 1, scenes.length, poll.label⟩ poll
      (FiniteTimer.waits (p.timer (i + 1))).length (p.chronicle registry scenes s)
      (p.play registry scenes s).1.1 := by
  have hcourses := p.courses_of_play registry scenes s
  have hprogress := progress_of_courses hcourses rfl
  generalize p.chronicle registry scenes s = record at hcourses hprogress ⊢
  generalize (p.play registry scenes s).1.1 = result at hcourses hprogress ⊢
  obtain ⟨habout, j, hj, hstops⟩ | ⟨own, ended, hcourse, habout, hstop⟩ :=
    passage_of_courses hcourses hscene
  · obtain ⟨earlier, e, hposition, hfailed, hstep⟩ := hstops.failed
    have hbefore : earlier.position < i + 1 := by omega
    exact .skipped habout hfailed hstep hbefore
  · cases hrender : poll.command.render registry with
    | error e =>
        refine .unrendered hrender fun a ha => silent_of_course hrender hcourse a ?_
        rw [habout] at ha
        exact Entry.attempt_mem_cons_event.mp ha
    | ok command =>
        have hattempts : own.filterMap Entry.attempt? =
            (Entry.about (i + 1) record).filterMap Entry.attempt? := by rw [habout]; rfl
        obtain ⟨runs, hheard, hstops⟩ := stopsAtMatch_of_course hrender hcourse
          (fun halt heq => (hstop halt heq).1) fun e he hstep a ha hanswer => by
            subst he
            rw [hattempts] at ha
            exact hprogress.not_completed_of_step hstep (completed_of_about ha hanswer)
        rw [hattempts] at hheard hstops
        exact .rendered hrender hheard hstops

open Rehearsal in
/-- A command that is polled until it is ready. -/
theorem readiness_stops_at_match :
    let p : Pacing (List Duration) (Session Stage) :=
      ⟨defaultInterval, fun _ => [.ofSecs 1], fun _ s => s⟩
    let registry := Registry.empty "orders" "eu-west-1" "123456789012"
    let poll : ShellPoll :=
      ⟨⟨"state \x7b\x7bstack\x7d\x7d", [.literal "state ", .hole "\x7b\x7bstack\x7d\x7d" .stack]⟩,
        ⟨none, some "ready", none⟩⟩
    let scenes : List (Scene (Session Stage) ⊕ Script (Session Stage)) :=
      [.inr (.ofList "wait" [.ok .pending, .ok .done]), .inl (.shellPoll poll)]
    let s := Session.start ⟨.emptyFolder, 0, default, [], "/home", []⟩
    poll.command.render registry = .ok "state orders" ∧
      (FiniteTimer.waits (p.timer 2)).length = 1 ∧
      PolledUntilMatch registry ⟨2, 2, poll.label⟩ poll (FiniteTimer.waits (p.timer 2)).length
        (p.chronicle registry scenes s) (p.play registry scenes s).1.1 := by
  intro p registry poll scenes s
  have hscene : scenes[1]? = some (.inl (.shellPoll poll)) := rfl
  have hwaits : FiniteTimer.waits (p.timer 2) = [.ofSecs 1] := FiniteTimer.waits_list _
  exact ⟨rfl, congrArg List.length hwaits, p.stops_at_match registry scenes s hscene⟩

end Pacing

end StackPlaybook
