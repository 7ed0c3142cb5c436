import StackPlaybook.Proofs.Scene.Calls

/-!
# StackPlaybook.Proofs.Scene.Conduct

What a scene does in one attempt: which calls it makes, in which order, and how its
answer comes from theirs.  `Conduct` says so for each kind of scene, and `conduct_attempt`
proves it, whatever the collaborators do.
-/

namespace StackPlaybook

open Scene

variable {ρ α : Type}

/-! ## Rules -/

/-- An operation on what a target resolves to: it is called once if the target resolves,
and the hook is handed its result if it succeeds.  The first error is the answer. -/
inductive Handled (resolved : Except Error ρ) (call : ρ → Except Error α → Call)
    (hook : Option (α → Except Error Unit → Call)) : List Call → Except Error Outcome → Prop where
  | unresolved {e : Error} (target : resolved = .error e) :
      Handled resolved call hook [] (.error e)
  | failed {r : ρ} {e : Error} (target : resolved = .ok r) :
      Handled resolved call hook [call r (.error e)] (.error e)
  | plain {r : ρ} {x : α} (target : resolved = .ok r) (unhooked : hook = none) :
      Handled resolved call hook [call r (.ok x)] (.ok .done)
  | hooked {r : ρ} {x : α} {handed : α → Except Error Unit → Call} (given : Except Error Unit)
      (target : resolved = .ok r) (hook_eq : hook = some handed) :
      Handled resolved call hook [call r (.ok x), handed x given] (given.map fun _ => .done)

/-- A command: it is run once if its text can be rendered. -/
inductive Shelled (rendered : Except Error String) (refuse : Error → Except Error Outcome)
    (outcome : String → Ran → Except Error Outcome) : List Call → Except Error Outcome → Prop where
  | unrendered {e : Error} (text : rendered = .error e) :
      Shelled rendered refuse outcome [] (refuse e)
  | failed {command : String} {run : Except String Finished} {e : Error}
      (text : rendered = .ok command) (started : ranOf command run = .error e) :
      Shelled rendered refuse outcome [.spawn "sh" ["-c", command] run] (refuse e)
  | ran {command : String} {run : Except String Finished} {ran : Ran}
      (text : rendered = .ok command) (started : ranOf command run = .ok ran) :
      Shelled rendered refuse outcome [.spawn "sh" ["-c", command] run] (outcome command ran)

/-- Items that a predicate is asked about: in order, up to the first one it accepts. -/
inductive Asked (accepts : α → Bool → Call) : List α → List Call → Bool → Prop where
  | nil : Asked accepts [] [] false
  | accepted (item : α) (items : List α) : Asked accepts (item :: items) [accepts item true] true
  | refused {item : α} {items : List α} {calls : List Call} {found : Bool}
      (rest : Asked accepts items calls found) :
      Asked accepts (item :: items) (accepts item false :: calls) found

/-- One look at what a target names: it is read once if the target resolves, and what was
read is judged. -/
inductive Looked (resolved : Except Error String) (call : String → Except Error (List α) → Call)
    (accepts : α → Bool → Call) : List Call → Except Error Outcome → Prop where
  | unresolved {e : Error} (target : resolved = .error e) :
      Looked resolved call accepts [] (Outcome.retryUnlessFatal e)
  | failed {name : String} {e : Error} (target : resolved = .ok name) :
      Looked resolved call accepts [call name (.error e)] (Outcome.retryUnlessFatal e)
  | judged {name : String} {items : List α} {calls : List Call} {found : Bool}
      (target : resolved = .ok name) (asked : Asked accepts items calls found) :
      Looked resolved call accepts (call name (.ok items) :: calls) (.ok (.ofBool found))

/-- The answer that the result of an action amounts to when its errors are retried unless
they are fatal. -/
def absorbed : Except Error Outcome → Except Error Outcome
  | .ok outcome => .ok outcome
  | .error e => Outcome.retryUnlessFatal e

/-- **What a scene does in one attempt.** -/
def Conduct {σ : Type} (registry : Registry) (calls : List Call) (answer : Except Error Outcome) :
    Scene σ → Prop
  | .adLib _ => ∃ given, calls = [.callback given] ∧ answer = given.map fun _ => .done
  | .publish p =>
    Handled (p.topic.arnText registry) (.publish · p.message) (p.hook.map fun _ => .hookId) calls
      answer
  | .invoke i =>
    Handled (i.function.arnText registry) (.invoke · i.payload) (i.hook.map fun _ => .hookResponse)
      calls answer
  | .send m =>
    Handled (m.queue.name registry) (.send · m.body) (m.hook.map fun _ => .hookId) calls answer
  | .put p => Handled (p.stream.name registry) (.put · p.data) none calls answer
  | .poll _ => ∃ given, calls = [.check given] ∧ answer = absorbed (given.map .ofBool)
  | .waitRecord w =>
    ∃ start, Looked (w.source.name registry) (.fetch · ⟨start, w.limit⟩) .acceptsRecord calls answer
  | .waitLog w =>
    ∃ start, Looked (w.function.name registry) (.search · w.filter ⟨start, w.limit⟩) .acceptsLine
      calls answer
  | .pause p => calls = [.sleep p.duration] ∧ answer = .ok .done
  | .shell a => Shelled (a.command.render registry) .error ShellAction.verdict calls answer
  | .shellPoll p =>
    Shelled (p.command.render registry) Outcome.retryUnlessFatal
      (fun _ ran => .ok (ShellPoll.verdict p.expect ran)) calls answer
  | .resolve r =>
    calls = [] ∧ answer = (r.target.name registry).bind fun _ =>
      (r.target.arnText registry).map fun _ => .done

/-! ## Calls of parts of attempts -/

section Parts

variable {σ : Type}

/-- Errors are absorbed in the answer, and the state is left as it is. -/
theorem absorb_apply (a : Act σ Outcome) (s : σ) : absorb a s = (absorbed (a s).1, (a s).2) := by
  unfold absorb
  obtain ⟨_ | _, t⟩ := a s <;> rfl

theorem Act.watched_apply (call : Except Error α → Call) (a : Act σ α) (w : Watched σ) :
    a.watched call w = ((a w.state).1, ⟨(a w.state).2, w.calls ++ [call (a w.state).1]⟩) := rfl

variable [Environment σ]

theorem logAll_watched (events : List Log.Event) (s : σ) (calls : List Call) :
    Environment.logAll events (⟨s, calls⟩ : Watched σ) = ⟨Environment.logAll events s, calls⟩ := by
  induction events generalizing s with
  | nil => rfl
  | cons e rest ih => exact ih (Environment.log e s)

/-- An action calls its operation once, and then its hook with the result. -/
theorem handled_carryOut {resolve : Act (Watched σ) ρ} {resolved : Except Error ρ}
    (hresolve : ∀ s, ∃ t, resolve ⟨s, []⟩ = (resolved, ⟨t, []⟩)) (operate : ρ → Act σ α)
    (call : ρ → Except Error α → Call) (event : ρ → α → Log.Event)
    (handed : α → Except Error Unit → Call) (hook : Option (α → Act σ Unit)) (s : σ) :
    let x := carryOut resolve (fun r => (operate r).watched (call r)) event
      (watchedHook handed hook) ⟨s, []⟩
    Handled resolved call (hook.map fun _ => handed) x.2.calls x.1 := by
  intro x
  obtain ⟨t, ht⟩ := hresolve s
  simp only [x, carryOut]
  rw [Act.bind_apply, ht]
  cases resolved with
  | error e => exact .unresolved rfl
  | ok r =>
      simp only
      rw [Act.bind_apply, Act.watched_apply]
      rcases hop : operate r t with ⟨e | result, t'⟩
      · exact .failed rfl
      · simp only [List.nil_append]
        rw [Act.bind_apply, Act.change_apply]
        simp only
        rw [Act.bind_apply]
        cases hook with
        | none => exact .plain rfl rfl
        | some f =>
            have hgiven : callHook (watchedHook handed (some f)) result =
                (f result).watched (handed result) := rfl
            rw [hgiven, Act.watched_apply]
            obtain ⟨e | u, t''⟩ := f result _
            · exact .hooked (.error e) rfl rfl
            · exact .hooked (.ok u) rfl rfl

theorem runShell_watched (command : String) (s : σ) (calls : List Call) :
    let run := Host.spawn "sh" ["-c", command] (Environment.log (runEvent command) s)
    runShell command (⟨s, calls⟩ : Watched σ) =
      (ranOf command run.1, ⟨run.2, calls ++ [.spawn "sh" ["-c", command] run.1]⟩) := rfl

theorem calls_showOutput (verbose : Bool) (stdout : String) (w : Watched σ) :
    (ShellAction.showOutput verbose stdout w).calls = w.calls := by
  unfold ShellAction.showOutput
  split <;> rfl

/-- A shell action runs its rendered command once, and its errors are errors. -/
theorem shelled_action (registry : Registry) (a : ShellAction) (s : σ) :
    let x := a.attempt registry (⟨s, []⟩ : Watched σ)
    Shelled (a.command.render registry) .error ShellAction.verdict x.2.calls x.1 := by
  intro x
  simp only [x, ShellAction.attempt]
  rw [Act.bind_apply, renderText_apply, logAll_watched]
  cases hrender : a.command.render registry with
  | error e => exact .unrendered rfl
  | ok command =>
      simp only
      rw [Act.bind_apply, runShell_watched]
      generalize Host.spawn "sh" ["-c", command] (_ : σ) = run
      cases hran : ranOf command run.1 with
      | error e => exact .failed rfl hran
      | ok ran =>
          simp only
          rw [Act.bind_apply, Act.change_apply]
          simp only
          rw [Act.ofExcept_apply, calls_showOutput]
          exact .ran rfl hran

/-- A shell poll runs its rendered command once, and its errors are retried unless they are fatal.
-/
theorem shelled_poll (registry : Registry) (p : ShellPoll) (s : σ) :
    let x := p.attempt registry (⟨s, []⟩ : Watched σ)
    Shelled (p.command.render registry) Outcome.retryUnlessFatal
      (fun _ ran => .ok (ShellPoll.verdict p.expect ran)) x.2.calls x.1 := by
  intro x
  simp only [x, ShellPoll.attempt, absorb]
  rw [Act.bind_apply, renderText_apply, logAll_watched]
  cases hrender : p.command.render registry with
  | error e => exact .unrendered rfl
  | ok command =>
      simp only
      rw [Act.bind_apply, runShell_watched]
      generalize Host.spawn "sh" ["-c", command] (_ : σ) = run
      cases hran : ranOf command run.1 with
      | error e => exact .failed rfl hran
      | ok ran => exact .ran rfl hran

omit [Environment σ] in
/-- A search asks about the items in order, up to the first one that is accepted. -/
theorem asked_anyItem (accepts : α → Bool → Call) (predicate : α → σ → Bool × σ) (items : List α)
    (s : σ) (calls : List Call) :
    let x := anyItem (fun item => watched (accepts item) (predicate item)) items ⟨s, calls⟩
    ∃ asked, x.2.calls = calls ++ asked ∧ Asked accepts items asked x.1 := by
  induction items generalizing s calls with
  | nil => exact ⟨[], (List.append_nil calls).symm, .nil⟩
  | cons item items ih =>
      simp only [anyItem, watched]
      obtain ⟨_ | _, t⟩ := predicate item s
      · obtain ⟨asked, hcalls, hasked⟩ := ih t (calls ++ [accepts item false])
        refine ⟨accepts item false :: asked, ?_, .refused hasked⟩
        rw [List.append_assoc] at hcalls
        exact hcalls
      · exact ⟨[accepts item true], rfl, .accepted item items⟩

/-- Judging asks the predicate, and an empty list is judged like one of which nothing is
accepted. -/
theorem asked_judge (message field name : String) (accepts : α → Bool → Call)
    (predicate : α → σ → Bool × σ) (items : List α) (s : σ) (calls : List Call) :
    let x := judge message field name (fun item => watched (accepts item) (predicate item)) items
      ⟨s, calls⟩
    ∃ asked found, Asked accepts items asked found ∧ x.2.calls = calls ++ asked ∧
      x.1 = .ok (.ofBool found) := by
  cases items with
  | nil => exact ⟨[], false, .nil, (List.append_nil calls).symm, rfl⟩
  | cons item items =>
      obtain ⟨asked, hcalls, hasked⟩ := asked_anyItem accepts predicate (item :: items) s calls
      exact ⟨asked, _, hasked, hcalls, rfl⟩

/-- What is read once and then judged: the calls and the result. -/
def ReadOnce (call : Except Error (List α) → Call) (accepts : α → Bool → Call)
    (x : Except Error Outcome × Watched σ) : Prop :=
  (∃ e, x.1 = .error e ∧ x.2.calls = [call (.error e)]) ∨
    ∃ items asked found, Asked accepts items asked found ∧ x.1 = .ok (.ofBool found) ∧
      x.2.calls = call (.ok items) :: asked

/-- Records are fetched once, and judged if that succeeds. -/
theorem readOnce_record (w : WaitRecord σ) (source : String) (window : Window) (s : σ) :
    ReadOnce (.fetch source window) .acceptsRecord (w.watched.look source window ⟨s, []⟩) := by
  have hfetch : w.watched.fetch source window =
      (w.fetch source window).watched (.fetch source window) := rfl
  unfold WaitRecord.look
  rw [Act.bind_apply, hfetch, Act.watched_apply]
  obtain ⟨e | records, t⟩ := w.fetch source window s
  · exact .inl ⟨e, rfl, rfl⟩
  · obtain ⟨asked, found, hasked, hcalls, hanswer⟩ := asked_judge "Checked records" "source" source
      .acceptsRecord w.predicate records (Environment.log ⟨.trace, pollTarget, "Fetched records",
        [("source", .text source), ("count", .number records.length)]⟩ t)
      [.fetch source window (.ok records)]
    exact .inr ⟨records, asked, found, hasked, hanswer, hcalls⟩

/-- Log lines are searched once, and judged if that succeeds. -/
theorem readOnce_log (w : WaitLog σ) (function : String) (window : Window) (s : σ) :
    ReadOnce (.search function w.filter window) .acceptsLine
      (w.watched.look function window ⟨s, []⟩) := by
  have hsearch : w.watched.search function w.watched.filter window =
      (w.search function w.filter window).watched (.search function w.filter window) := rfl
  unfold WaitLog.look
  rw [Act.bind_apply, hsearch, Act.watched_apply]
  obtain ⟨e | lines, t⟩ := w.search function w.filter window s
  · exact .inl ⟨e, rfl, rfl⟩
  · obtain ⟨asked, found, hasked, hcalls, hanswer⟩ := asked_judge "Checked log lines" "function"
      function .acceptsLine w.predicate lines t [.search function w.filter window (.ok lines)]
    exact .inr ⟨lines, asked, found, hasked, hanswer, hcalls⟩

/-- A look reads once what the target names, from the start of the window where that is fixed,
and otherwise from so long before now. -/
theorem looked_lookOnce (registry : Registry) (target : Target) (since : Option Moment)
    (lookback : Duration) (limit : Nat) {call : String → Window → Except Error (List α) → Call}
    {accepts : α → Bool → Call} {look : String → Window → Act (Watched σ) Outcome}
    (h : ∀ name window s, ReadOnce (call name window) accepts (look name window ⟨s, []⟩)) (s : σ) :
    let x := lookOnce registry target since lookback limit look ⟨s, []⟩
    let now := Host.today (Environment.logAll (target.events registry) s)
    Looked (target.name registry) (call · ⟨since.getD (windowStart now lookback), limit⟩) accepts
      x.2.calls x.1.1 := by
  intro x now
  simp only [x, now, lookOnce, nameOf_apply, logAll_watched]
  generalize Environment.logAll (target.events registry) s = t
  cases hname : target.name registry with
  | error e => exact .unresolved rfl
  | ok name =>
      let start := since.getD (windowStart (Host.today t) lookback)
      simp only [absorb_apply]
      rcases h name ⟨start, limit⟩ t with ⟨e, hanswer, hcalls⟩ |
        ⟨items, asked, found, hasked, hanswer, hcalls⟩
      · change Looked _ _ _ (look name ⟨start, limit⟩ ⟨t, []⟩).2.calls
          (absorbed (look name ⟨start, limit⟩ ⟨t, []⟩).1)
        rw [hanswer, hcalls]
        exact .failed rfl
      · change Looked _ _ _ (look name ⟨start, limit⟩ ⟨t, []⟩).2.calls
          (absorbed (look name ⟨start, limit⟩ ⟨t, []⟩).1)
        rw [hanswer, hcalls]
        exact .judged rfl hasked

omit [Environment σ] in
/-- An ad-lib makes one call, and is done unless that fails. -/
theorem called_adLib (a : AdLib σ) (s : σ) :
    let x := AdLib.attempt ⟨a.label, a.callback.watched .callback⟩ ⟨s, []⟩
    ∃ given, x.2.calls = [.callback given] ∧ x.1 = given.map fun _ => .done := by
  intro x
  simp only [x, AdLib.attempt]
  rw [Act.bind_apply, Act.watched_apply]
  obtain ⟨e | u, t⟩ := a.callback s
  · exact ⟨.error e, rfl, rfl⟩
  · exact ⟨.ok u, rfl, rfl⟩

omit [Environment σ] in
/-- A poll makes one call, and answers what it gave. -/
theorem asked_poll (p : Poll σ) (s : σ) :
    let x := Poll.attempt ⟨p.label, p.check.watched .check⟩ ⟨s, []⟩
    ∃ given, x.2.calls = [.check given] ∧ x.1 = absorbed (given.map .ofBool) := by
  intro x
  simp only [x, Poll.attempt]
  rw [absorb_apply, Act.map_apply, Act.watched_apply]
  exact ⟨(p.check s).1, rfl, rfl⟩

/-- A resolve step makes no calls, and is done if its target has a name and an ARN. -/
theorem uncalled_resolveStep (registry : Registry) (r : ResolveStep) (s : σ) :
    let x := r.attempt registry (⟨s, []⟩ : Watched σ)
    x.2.calls = [] ∧ x.1 = (r.target.name registry).bind fun _ =>
      (r.target.arnText registry).map fun _ => .done := by
  intro x
  simp only [x, ResolveStep.attempt]
  rw [Act.bind_apply, nameOf_apply, logAll_watched]
  cases r.target.name registry with
  | error e => exact ⟨rfl, rfl⟩
  | ok name =>
      simp only
      rw [Act.bind_apply, arnOf_apply, logAll_watched]
      cases r.target.arnText registry with
      | error e => exact ⟨rfl, rfl⟩
      | ok arn => cases r.verbose <;> exact ⟨rfl, rfl⟩

end Parts

/-! ## All kinds of scenes -/

variable {σ : Type} [Environment σ]

/-- **Conduct of watched scenes**, one case for each kind. -/
theorem conduct_watched (registry : Registry) (scene : Scene σ) (s : σ) :
    Conduct registry (scene.calls registry s) (attempt registry scene.watched ⟨s, []⟩).1.1
      scene := by
  have hname : ∀ (target : Target) (s : σ), ∃ t,
      nameOf registry target (⟨s, []⟩ : Watched σ) = (target.name registry, ⟨t, []⟩) :=
    fun target s => ⟨_, by rw [nameOf_apply, logAll_watched]⟩
  have harn : ∀ (target : Target) (s : σ), ∃ t,
      arnOf registry target (⟨s, []⟩ : Watched σ) = (target.arnText registry, ⟨t, []⟩) :=
    fun target s => ⟨_, by rw [arnOf_apply, logAll_watched]⟩
  cases scene with
  | adLib a => exact called_adLib a s
  | publish p => exact handled_carryOut (harn p.topic) _ _ _ _ p.hook s
  | invoke i => exact handled_carryOut (harn i.function) _ _ _ _ i.hook s
  | send m => exact handled_carryOut (hname m.queue) _ _ _ _ m.hook s
  | put p => exact handled_carryOut (hname p.stream) _ _ _ (fun _ => .callback) none s
  | poll p => exact asked_poll p s
  | waitRecord w =>
      exact ⟨_, looked_lookOnce registry w.source w.since w.lookback w.limit (readOnce_record w) s⟩
  | waitLog w =>
      exact ⟨_, looked_lookOnce registry w.function w.since w.lookback w.limit (readOnce_log w) s⟩
  | pause p => exact ⟨rfl, rfl⟩
  | shell a => exact shelled_action registry a s
  | shellPoll p => exact shelled_poll registry p s
  | resolve r => exact uncalled_resolveStep registry r s

/-- **Conduct of scenes**: every attempt follows the rules of its scene. -/
theorem conduct_attempt (registry : Registry) (scene : Scene σ) (s : σ) :
    Conduct registry (scene.calls registry s) (attempt registry scene s).1.1 scene := by
  have hanswer := (attempt_watched registry scene ⟨s, []⟩).answer
  rw [← hanswer]
  exact conduct_watched registry scene s

end StackPlaybook
