import StackPlaybook.Proofs.Backoff.Doubling
import StackPlaybook.Proofs.Play.Budget
import StackPlaybook.Settings

/-!
# StackPlaybook.Proofs.Backoff.Schedule

How often and how long scenes are waited for under the settings of a document, whatever it says
and whatever the scenes do.

* `fits_of_parse` — a document that is accepted gives valid waits whose milliseconds fit in 64
  bits, so that none is cut short as a duration;
* `steady_new` — the waits of a backoff grow from its base to its cap and at most double each
  time, beyond the largest factor as well;
* `schedule_of_parse` — so every timer of the settings is steady, answers as if it were alone,
  and bounds the attempts of every play.
-/

namespace StackPlaybook

/-! ## The waits of a document -/

namespace WaitSettings

/-- The milliseconds fit in 64 bits. -/
structure Fits (w : WaitSettings) : Prop where
  base : w.baseMs < 0x10000000000000000
  cap : w.capMs < 0x10000000000000000

end WaitSettings

namespace Settings

open Toml

/-- What is read as waits fits in 64 bits, whether it is given or a default. -/
theorem fits_of_readWaits {v : Value} {w : WaitSettings} (h : readWaits v = some w) : w.Fits := by
  unfold readWaits at h
  obtain ⟨fields, -, h⟩ := Option.bind_eq_some_iff.mp h
  split at h
  · next base cap retries =>
    obtain ⟨baseMs, hbase, h⟩ := Option.bind_eq_some_iff.mp h
    obtain ⟨capMs, hcap, h⟩ := Option.bind_eq_some_iff.mp h
    obtain ⟨maxRetries, -, h⟩ := Option.bind_eq_some_iff.mp h
    cases h
    exact ⟨Given.of_orElse (· < 0x10000000000000000) hbase (by decide) fun _ => Value.lt_of_nat?,
      Given.of_orElse (· < 0x10000000000000000) hcap (by decide) fun _ => Value.lt_of_nat?⟩
  · cases h

/-- So do the waits of a document that has some, and those of one that has none. -/
theorem fits_of_readParts {region : String} {document : Entries} {intervalMs : Nat}
    {w : WaitSettings} {stack : StackSettings}
    (h : readParts region document = some (intervalMs, w, stack)) : w.Fits := by
  unfold readParts at h
  split at h
  · obtain ⟨interval, -, h⟩ := Option.bind_eq_some_iff.mp h
    obtain ⟨waits, hwaits, h⟩ := Option.bind_eq_some_iff.mp h
    obtain ⟨stack, -, h⟩ := Option.bind_eq_some_iff.mp h
    cases h
    exact Given.of_orElse _ hwaits ⟨by decide, by decide⟩ fun _ => fits_of_readWaits
  · cases h

/-- The waits of a document that is accepted fit in 64 bits. -/
theorem fits_of_parse {region document : String} {settings : Settings}
    (h : parse region document = .ok settings) : settings.waits.Fits := by
  unfold parse at h
  split at h
  · cases h
  · next intervalMs waits stack hparts =>
    obtain ⟨entries, -, hparts⟩ := Option.bind_eq_some_iff.mp hparts
    split at h
    · cases h
      exact fits_of_readParts hparts
    · cases h

end Settings

/-! ## Steady waits -/

namespace Backoff

/-- A backoff whose waits grow from `base` nanoseconds to at most `cap`, as often as it has
`retries`. -/
structure Steady (b : Backoff) (base cap retries : Nat) : Prop where
  /-- As many calls as there are retries give a wait, and no later one does. -/
  given : ∀ n, (Timer.answer n b).isSome ↔ n < retries
  first : ∀ wait, Timer.answer 0 b = some wait → wait.nanos = base
  within : ∀ n wait, Timer.answer n b = some wait → base ≤ wait.nanos ∧ wait.nanos ≤ cap
  grows : ∀ n wait next, Timer.answer n b = some wait → Timer.answer (n + 1) b = some next →
    wait.nanos ≤ next.nanos ∧ next.nanos ≤ 2 * wait.nanos
  counts : ∀ calls, (Timer.left^[calls] b).retries.toNat = min calls retries

section Waits

variable {base cap : Duration}

/-- A wait lies between the base and the cap. -/
theorem wait_within (h : base.nanos ≤ cap.nanos) (n : Nat) :
    base.nanos ≤ (wait base cap n).nanos ∧ (wait base cap n).nanos ≤ cap.nanos := by
  have hbase : base.nanos ≤ base.nanos * factor n := Nat.le_mul_of_pos_right _ (factor_pos n)
  rw [nanos_wait]
  omega

/-- A wait grows with its factor. -/
theorem wait_grows (n : Nat) :
    (wait base cap n).nanos ≤ (wait base cap (n + 1)).nanos ∧
      (wait base cap (n + 1)).nanos ≤ 2 * (wait base cap n).nanos := by
  have hgrows : base.nanos * factor n ≤ base.nanos * factor (n + 1) :=
    Nat.mul_le_mul_left _ (factor_succ n).1
  have hdouble : base.nanos * factor (n + 1) ≤ 2 * (base.nanos * factor n) := by
    rw [Nat.mul_left_comm]
    exact Nat.mul_le_mul_left _ (factor_succ n).2
  rw [nanos_wait, nanos_wait]
  omega

end Waits

/-- **A backoff is steady** just because its base is not above its cap. -/
theorem steady_new {base cap : Duration} (maxRetries : UInt32) (h : base.nanos ≤ cap.nanos) :
    (new base cap maxRetries).Steady base.nanos cap.nanos maxRetries.toNat := by
  have hwait {n : Nat} {w : Duration} (hw : Timer.answer n (new base cap maxRetries) = some w) :
      w = wait base cap n := by
    rw [answer_new] at hw
    split at hw
    · exact (Option.some.inj hw).symm
    · cases hw
  constructor
  case given =>
    intro n
    rw [answer_new]
    split
    · next hlt => simp [hlt]
    · next hlt => simp [hlt]
  case first =>
    intro w hw
    rw [hwait hw, nanos_wait, factor_zero, Nat.mul_one]
    exact Nat.min_eq_right h
  case within =>
    intro n w hw
    rw [hwait hw]
    exact wait_within h n
  case grows =>
    intro n w next hw hnext
    rw [hwait hw, hwait hnext]
    exact wait_grows n
  case counts => exact retries_left_new base cap maxRetries

end Backoff

/-! ## Playing under the settings of a document -/

namespace Settings

/-- The backoff of settings is steady, as no length of time is cut short. -/
theorem steady_backoff {settings : Settings} (h : settings.waits.Fits) :
    settings.backoff.Steady (settings.waits.baseMs * 1000000) (settings.waits.capMs * 1000000)
      settings.waits.maxRetries.toNat := by
  rw [← Duration.nanos_ofMillis h.base, ← Duration.nanos_ofMillis h.cap]
  refine Backoff.steady_new _ ?_
  rw [Duration.nanos_ofMillis h.base, Duration.nanos_ofMillis h.cap]
  exact Nat.mul_le_mul_right _ settings.waits_valid.2

/-- **Every document that is accepted** paces playbooks by timers that are steady between its two
lengths of time, in milliseconds, and each of which answers as if it were alone.  No play under
them takes more attempts than their retries allow. -/
theorem schedule_of_parse {region document : String} {settings : Settings}
    (h : parse region document = .ok settings) :
    settings.backoff.Steady (settings.waits.baseMs * 1000000) (settings.waits.capMs * 1000000)
      settings.waits.maxRetries.toNat ∧
    (∀ (calls : List Nat) (i : Nat),
      ((Timer.serve (fun _ => settings.backoff) calls).filter (·.1 = i)).map Prod.snd =
        (List.range (calls.count i)).map fun n => Timer.answer n settings.backoff) ∧
    ∀ {S σ : Type} [Playable S σ] [Clock σ] (interval : Option Duration)
      (observe : StepEvent → σ → σ) (registry : Registry) (scenes : List S) (s : σ),
      (settings.pacing interval observe).Bounded registry scenes s
        settings.waits.maxRetries.toNat :=
  ⟨steady_backoff (fits_of_parse h), fun calls i => Timer.serve_own _ calls i,
    fun _ _ registry scenes s => Pacing.bounded_play _ registry scenes s fun _ => Nat.le_refl _⟩

/-- A document with nothing but a shorter base. -/
theorem schedule_of_parse_forty :
    ∃ settings, parse "us-east-1" "[backoff]\nbase_ms = 40\n" = .ok settings ∧
      settings.waits = ⟨40, 60000, 10⟩ ∧
      settings.backoff.Steady 40000000 60000000000 10 ∧
      ((Timer.serve (fun _ => settings.backoff) [0, 1, 0]).filter (·.1 = 0)).map Prod.snd =
        [Timer.answer 0 settings.backoff, Timer.answer 1 settings.backoff] ∧
      ∀ {S σ : Type} [Playable S σ] [Clock σ] (interval : Option Duration)
        (observe : StepEvent → σ → σ) (registry : Registry) (scenes : List S) (s : σ),
        (settings.pacing interval observe).Bounded registry scenes s 10 := by
  have hread : (parse "us-east-1" "[backoff]\nbase_ms = 40\n").toOption.map Settings.waits =
      some ⟨40, 60000, 10⟩ := by decide +kernel
  cases hparse : parse "us-east-1" "[backoff]\nbase_ms = 40\n" with
  | error e => rw [hparse] at hread; cases hread
  | ok settings =>
      rw [hparse] at hread
      have hwaits : settings.waits = ⟨40, 60000, 10⟩ := Option.some.inj hread
      obtain ⟨hsteady, halone, hplays⟩ := schedule_of_parse hparse
      rw [hwaits] at hsteady hplays
      exact ⟨settings, rfl, hwaits, hsteady, halone [0, 1, 0] 0, hplays⟩

end Settings

end StackPlaybook
