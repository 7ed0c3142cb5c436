import StackPlaybook.Proofs.Scene.Fetching

/-!
# StackPlaybook.Proofs.Scene.Lookback

How far back waits for records and for log lines read, against the calendar, which does not go
back for ever.

* `nanos_windowStart` — a window starts so long before now, or now if the calendar does not go
  back so far;
* `readsFrom_of_waiting` — which is where every attempt at a wait reads from, if there is a name
  to read from;
* `start_le_start_iff` — so who looks back further sees no less, unless that is further than the
  calendar goes.
-/

namespace StackPlaybook

open Scene

/-! ## Starts of windows -/

/-- The calendar goes back so far. -/
def Moment.Reaches (now : Moment) (lookback : Duration) : Prop :=
  -(0x8000000000000000 * 1000000000) ≤ now.nanos - lookback.nanos

instance (now : Moment) (lookback : Duration) : Decidable (now.Reaches lookback) :=
  inferInstanceAs (Decidable (_ ≤ _))

namespace Scene

/-- A window starts the lookback before now, or now if the calendar does not go back so far. -/
theorem nanos_windowStart (now : Moment) (lookback : Duration) :
    (windowStart now lookback).nanos =
      if now.Reaches lookback then now.nanos - lookback.nanos else now.nanos := by
  by_cases h : now.Reaches lookback
  · have hstart : now.before? lookback = some _ := dif_pos h
    rw [windowStart, hstart, if_pos h]
    rfl
  · have hstart : now.before? lookback = none := dif_neg h
    rw [windowStart, hstart, if_neg h]
    rfl

/-- No window starts after now. -/
theorem windowStart_le (now : Moment) (lookback : Duration) :
    (windowStart now lookback).nanos ≤ now.nanos := by
  rw [nanos_windowStart]
  split
  · omega
  · exact Int.le_refl _

/-- The longer of two lookbacks starts no later than the shorter one, unless it alone is further
than the calendar goes, and the shorter one is not zero. -/
theorem windowStart_le_windowStart_iff (now : Moment) {short long : Duration}
    (h : short.nanos ≤ long.nanos) :
    (windowStart now long).nanos ≤ (windowStart now short).nanos ↔
      now.Reaches long ∨ ¬ now.Reaches short ∨ short.nanos = 0 := by
  have hshort : now.Reaches long → now.Reaches short := by
    unfold Moment.Reaches
    omega
  rw [nanos_windowStart, nanos_windowStart]
  by_cases hlong : now.Reaches long
  · rw [if_pos hlong, if_pos (hshort hlong)]
    exact ⟨fun _ => .inl hlong, fun _ => by omega⟩
  · -- The longer one starts now, which is no later only if the shorter one does as well.
    rw [if_neg hlong]
    split
    · next hreached =>
      simp only [hlong, hreached, false_or, not_true_eq_false]
      omega
    · next hunreached => exact ⟨fun _ => .inr (.inl hunreached), fun _ => Int.le_refl _⟩

end Scene

/-! ## Windows that are read -/

/-- The window that is read in a call. -/
def Call.window? : Call → Option Window
  | .fetch _ window _ | .search _ _ window _ => some window
  | _ => none

/-- The windows that are read in an attempt. -/
def Visit.windows (v : Visit) : List Window := v.calls.filterMap Call.window?

/-- Its windows are read in just the calls that fetch. -/
structure Lookout.Windowed {α : Type} (l : Lookout α) : Prop where
  fetch : ∀ name window given, (l.fetch name window given).window? = some window
  accepts : ∀ item answer, (l.accepts item answer).window? = none

namespace Lookout

theorem windowed_records (source : Target) (lookback : Duration) (limit : Nat) :
    (records source lookback limit).Windowed := ⟨fun _ _ _ => rfl, fun _ _ => rfl⟩

theorem windowed_lines (function : Target) (filter : Option String) (lookback : Duration)
    (limit : Nat) : (lines function filter lookback limit).Windowed :=
  ⟨fun _ _ _ => rfl, fun _ _ => rfl⟩

end Lookout

section Windows

variable {σ α : Type} [Environment σ]

/-- The windows that are read in attempts in a row. -/
def Scene.windows (registry : Registry) (scene : Scene σ) (states : List σ) : List Window :=
  (scene.visits registry states).flatMap Visit.windows

theorem Scene.length_visits (registry : Registry) (scene : Scene σ) (states : List σ) :
    (scene.visits registry states).length = states.length := by
  induction states generalizing scene with
  | nil => rfl
  | cons s states ih => exact congrArg (· + 1) (ih _)

/-- Asking the predicate reads no window. -/
theorem Lookout.windows_of_asked {l : Lookout α} (hl : l.Windowed) {items : List α}
    {calls : List Call} {found : Bool} (h : Asked l.accepts items calls found) :
    calls.filterMap Call.window? = [] := by
  induction h with
  | nil => rfl
  | accepted item items => rw [List.filterMap_cons_none (hl.accepts item true), List.filterMap_nil]
  | refused rest ih => rw [List.filterMap_cons_none (hl.accepts _ false), ih]

/-- A look reads its window, and no other, if there is a name to read from. -/
theorem Lookout.windows_of_looks {l : Lookout α} (hl : l.Windowed) {registry : Registry}
    {since : Moment} {v : Visit} (h : l.LooksFrom registry since v) :
    v.windows = match l.target.name registry with
      | .error _ => []
      | .ok _ => [⟨since, l.limit⟩] := by
  obtain ⟨calls, answer⟩ := v
  unfold LooksFrom at h
  cases h with
  | unresolved target => rw [target]; rfl
  | failed target =>
      rw [target]
      exact List.filterMap_cons_some (hl.fetch ..)
  | judged target asked =>
      rw [target]
      refine (List.filterMap_cons_some (hl.fetch ..)).trans ?_
      rw [windows_of_asked hl asked]

/-- The attempts that begin in a state each read this window, if there is a name to read from. -/
def ReadsFrom (registry : Registry) (target : Target) (window : Window) (scene : Scene σ)
    (s : σ) : Prop :=
  ∀ states, scene.windows registry (s :: states) = match target.name registry with
    | .error _ => []
    | .ok _ => List.replicate (states.length + 1) window

/-- Attempts that look at one window read it, one time each. -/
theorem readsFrom_of_looks {l : Lookout α} (hl : l.Windowed) {registry : Registry}
    {scene : Option Moment → Scene σ} (h : Looks registry l scene) (s : σ) :
    ReadsFrom registry l.target ⟨l.start registry s, l.limit⟩ (scene none) s := by
  intro states
  have hvisit := fun v hv => Lookout.windows_of_looks hl (looked_of_looks h s states v hv)
  rw [Scene.windows]
  cases hname : l.target.name registry with
  | error e =>
      rw [hname] at hvisit
      exact List.flatMap_eq_nil_iff.mpr hvisit
  | ok name =>
      rw [hname] at hvisit
      rw [List.flatMap_congr hvisit, ← List.map_eq_flatMap, List.map_const', Scene.length_visits,
        List.length_cons]

/-! ## Waits -/

/-- A wait for records or for log lines as it is made, before any attempt. -/
inductive Waiting (target : Target) (lookback : Duration) (limit : Nat) : Scene σ → Prop
  | records {fetch : String → Window → Act σ (List Record)} {predicate : Record → σ → Bool × σ}
      {w : WaitRecord σ} (made : WaitRecord.new fetch target lookback limit predicate = .ok w) :
      Waiting target lookback limit (.waitRecord w)
  | lines {search : String → Option String → Window → Act σ (List LogLine)}
      {filter : Option String} {predicate : LogLine → σ → Bool × σ} {w : WaitLog σ}
      (made : WaitLog.new search target filter lookback limit predicate = .ok w) :
      Waiting target lookback limit (.waitLog w)

/-- The calendar when a target has been resolved. -/
def Target.today (registry : Registry) (target : Target) (s : σ) : Moment :=
  Host.today (Environment.logAll (target.events registry) s)

/-- **Every attempt at a wait** reads one window, which starts where the calendar was at the
first attempt, less what there is to look back. -/
theorem readsFrom_of_waiting (registry : Registry) {target : Target} {lookback : Duration}
    {limit : Nat} {scene : Scene σ} (h : Waiting target lookback limit scene) (s : σ) :
    ReadsFrom registry target ⟨windowStart (target.today registry s) lookback, limit⟩ scene s := by
  cases h with
  | records made =>
      obtain ⟨hlimit, rfl⟩ := WaitRecord.exists_of_new made
      exact readsFrom_of_looks (Lookout.windowed_records ..)
        (looks_waitRecord registry ⟨_, target, lookback, limit, hlimit, none, _⟩) s
  | lines made =>
      obtain ⟨hfilter, hlimit, rfl⟩ := WaitLog.exists_of_new made
      exact readsFrom_of_looks (Lookout.windowed_lines ..)
        (looks_waitLog registry ⟨_, target, _, hfilter, lookback, limit, hlimit, none, _⟩) s

/-- **Looking back further** from the same moment: neither window starts after that moment, and
the longer lookback starts no later than the shorter one, unless the calendar goes back as far as
the shorter one and not as far as the longer. -/
theorem start_le_start_iff {registry₁ registry₂ : Registry} {target₁ target₂ : Target}
    {lookback₁ lookback₂ : Duration} {limit₁ limit₂ : Nat} {scene₁ scene₂ : Scene σ}
    (h₁ : Waiting target₁ lookback₁ limit₁ scene₁) (h₂ : Waiting target₂ lookback₂ limit₂ scene₂)
    (hle : lookback₁.nanos ≤ lookback₂.nanos) {s₁ s₂ : σ} {now : Moment}
    (hnow₁ : target₁.today registry₁ s₁ = now) (hnow₂ : target₂.today registry₂ s₂ = now) :
    ∃ start₁ start₂, ReadsFrom registry₁ target₁ ⟨start₁, limit₁⟩ scene₁ s₁ ∧
      ReadsFrom registry₂ target₂ ⟨start₂, limit₂⟩ scene₂ s₂ ∧
      start₁.nanos ≤ now.nanos ∧ start₂.nanos ≤ now.nanos ∧
      (start₂.nanos ≤ start₁.nanos ↔
        now.Reaches lookback₂ ∨ ¬ now.Reaches lookback₁ ∨ lookback₁.nanos = 0) := by
  have hreads₁ := readsFrom_of_waiting registry₁ h₁ s₁
  have hreads₂ := readsFrom_of_waiting registry₂ h₂ s₂
  rw [hnow₁] at hreads₁
  rw [hnow₂] at hreads₂
  exact ⟨_, _, hreads₁, hreads₂, windowStart_le now lookback₁, windowStart_le now lookback₂,
    windowStart_le_windowStart_iff now hle⟩

end Windows

section Sales

open Rehearsal

/-- A wait for sales that looks back so many seconds. -/
def salesWait (seconds : Nat) : WaitRecord (Session Stage) :=
  ⟨fun _ _ => pure [⟨[]⟩], .arn ⟨"arn:aws:dynamodb:r:1:table/sales", by decide, by decide⟩,
    .ofSecs seconds, 20, by decide, none, fun _ s => (true, s)⟩

theorem waiting_salesWait (seconds : Nat) :
    Waiting (salesWait seconds).source (.ofSecs seconds) 20 (.waitRecord (salesWait seconds)) :=
  .records rfl

def orders : Registry := .empty "orders" "r" "1"

/-- A session at the epoch. -/
def epoch : Session Stage := .start ⟨.emptyFolder, 0, default, [], "/home", []⟩

/-- A minute and an hour are both within reach of the epoch. -/
theorem start_le_start_iff_hour :
    let minute := salesWait 60
    let hour := salesWait 3600
    Waiting minute.source minute.lookback 20 (.waitRecord minute) ∧
      Waiting hour.source hour.lookback 20 (.waitRecord hour) ∧
      minute.lookback.nanos ≤ hour.lookback.nanos ∧
      minute.source.today orders epoch = default ∧ hour.source.today orders epoch = default ∧
      minute.source.name orders = .ok "sales" ∧ (default : Moment).Reaches hour.lookback ∧
      ∃ start₁ start₂, ReadsFrom orders minute.source ⟨start₁, 20⟩ (.waitRecord minute) epoch ∧
        ReadsFrom orders hour.source ⟨start₂, 20⟩ (.waitRecord hour) epoch ∧
        start₁.nanos ≤ (default : Moment).nanos ∧ start₂.nanos ≤ (default : Moment).nanos ∧
        (start₂.nanos ≤ start₁.nanos ↔ (default : Moment).Reaches hour.lookback ∨
          ¬ (default : Moment).Reaches minute.lookback ∨ minute.lookback.nanos = 0) := by
  intro minute hour
  have hle : minute.lookback.nanos ≤ hour.lookback.nanos := by decide
  exact ⟨waiting_salesWait 60, waiting_salesWait 3600, hle, rfl, rfl, by decide, by decide,
    start_le_start_iff (waiting_salesWait 60) (waiting_salesWait 3600) hle rfl rfl⟩

/-- The window that the first attempt at the wait for sales reads, at the epoch. -/
theorem windows_salesWait (seconds : Nat) :
    (Scene.waitRecord (salesWait seconds)).windows orders [epoch] =
      [⟨windowStart default (.ofSecs seconds), 20⟩] :=
  readsFrom_of_waiting orders (waiting_salesWait seconds) epoch []

/-- **The longest lookback** is out of reach of the epoch, and nothing from before the first
attempt is read, where a minute of it would be. -/
theorem lookback_out_of_reach :
    let minute := salesWait 60
    let longest := salesWait (2 ^ 64 - 1)
    minute.lookback.nanos ≤ longest.lookback.nanos ∧
      minute.source.today orders epoch = default ∧
      longest.source.today orders epoch = default ∧
      ((Scene.waitRecord minute).windows orders [epoch]).map (·.since.nanos) = [-60000000000] ∧
      ((Scene.waitRecord longest).windows orders [epoch]).map (·.since.nanos) = [0] := by
  intro minute longest
  refine ⟨by decide, rfl, rfl, ?_, ?_⟩
  · rw [windows_salesWait]
    decide
  · rw [windows_salesWait]
    decide

end Sales

end StackPlaybook
