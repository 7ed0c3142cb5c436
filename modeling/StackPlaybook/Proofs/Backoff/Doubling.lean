import StackPlaybook.Proofs.Waits

/-!
# StackPlaybook.Proofs.Backoff.Doubling

The waits of a backoff, call by call, against the doubling of its base in exact arithmetic.

* `left_new` — a backoff counts the waits that it has given, and none beyond the number of its
  retries, so that the count never overflows;
* `answer_new` — up to there every call gives a wait, and no later one does;
* `nanos_wait` — a wait is the base times a factor, but no longer than the cap, which is shorter
  than any product that is too long for a duration;
* `doubled_iff` — the factor doubles as long as it fits in 32 bits and then stays, which only a
  cap that was reached before can hide.
-/

namespace StackPlaybook.Backoff

/-! ## Factors -/

/-- The largest factor. -/
def maxFactor : Nat := 2 ^ 32 - 1

/-- The powers of two that a factor can be are those below the 32nd. -/
theorem two_pow_le_maxFactor_iff {n : Nat} : 2 ^ n ≤ maxFactor ↔ n < 32 := by
  rw [← Nat.pow_lt_pow_iff_right (show 1 < 2 by decide)]
  exact Nat.lt_succ_iff.symm

/-- A factor doubles with every wait until it is the largest one. -/
theorem factor_eq (n : Nat) : factor n = min (2 ^ n) maxFactor := by
  unfold factor
  split
  · next h => exact (Nat.min_eq_left (two_pow_le_maxFactor_iff.mpr h)).symm
  · next h =>
    have hlt : ¬ 2 ^ n ≤ maxFactor := fun hle => h (two_pow_le_maxFactor_iff.mp hle)
    exact (Nat.min_eq_right (Nat.le_of_not_le hlt)).symm

@[simp] theorem factor_zero : factor 0 = 1 := rfl

theorem factor_pos (n : Nat) : 0 < factor n := by
  have hpow : 0 < 2 ^ n := Nat.two_pow_pos n
  have hmax : 0 < maxFactor := by decide
  rw [factor_eq]
  omega

/-- A factor is at least the one before it, and at most twice that. -/
theorem factor_succ (n : Nat) : factor n ≤ factor (n + 1) ∧ factor (n + 1) ≤ 2 * factor n := by
  rw [factor_eq, factor_eq, Nat.pow_succ]
  omega

/-! ## Calls -/

section Calls

variable (base cap : Duration) (maxRetries : UInt32)

/-- The wait after `n` others. -/
def wait (n : Nat) : Duration := (base.times (factor n)).min cap

/-- The backoff after `n` waits. -/
def afterWaits (n : Nat) : Backoff := ⟨base, cap, maxRetries, UInt32.ofNat n⟩

variable {base cap maxRetries} {n : Nat}

theorem toNat_ofNat_of_le (h : n ≤ maxRetries.toNat) : (UInt32.ofNat n).toNat = n :=
  UInt32.toNat_ofNat_of_lt' (Nat.lt_of_le_of_lt h maxRetries.toNat_lt)

/-- While there are retries left, the timer gives the next wait and counts it. -/
theorem next_of_lt (h : n < maxRetries.toNat) :
    (afterWaits base cap maxRetries n).next =
      some (wait base cap n, afterWaits base cap maxRetries (n + 1)) := by
  have hn := toNat_ofNat_of_le (Nat.le_of_lt h)
  have hlt : ¬ maxRetries ≤ UInt32.ofNat n := by
    rw [UInt32.le_iff_toNat_le, hn]
    omega
  simp only [next, afterWaits, if_neg hlt, hn, wait, UInt32.ofNat_add]
  rfl

/-- After the last retry it gives none. -/
theorem next_of_spent : (afterWaits base cap maxRetries maxRetries.toNat).next = none := by
  have hle : maxRetries ≤ UInt32.ofNat maxRetries.toNat := by
    rw [UInt32.le_iff_toNat_le, toNat_ofNat_of_le (Nat.le_refl _)]
  exact if_pos hle

variable (base cap maxRetries n)

/-- **The count of waits** follows the calls up to the number of retries. -/
theorem left_new :
    Timer.left^[n] (new base cap maxRetries) =
      afterWaits base cap maxRetries (min n maxRetries.toNat) := by
  induction n with
  | zero => rw [Nat.zero_min]; rfl
  | succ n ih =>
      rw [Function.iterate_succ_apply', ih, Timer.left]
      by_cases hlt : n < maxRetries.toNat
      · rw [Nat.min_eq_left (Nat.le_of_lt hlt), Nat.min_eq_left hlt]
        exact congrArg (Option.elim · _ _) (next_of_lt hlt)
      · rw [Nat.min_eq_right (by omega), Nat.min_eq_right (by omega)]
        exact congrArg (Option.elim · _ _) next_of_spent

/-- The retries count the calls, and stop at the last one. -/
theorem retries_left_new :
    (Timer.left^[n] (new base cap maxRetries)).retries.toNat = min n maxRetries.toNat := by
  rw [left_new]
  exact toNat_ofNat_of_le (Nat.min_le_right ..)

/-- **A backoff gives its waits and then no more.** -/
theorem answer_new :
    Timer.answer n (new base cap maxRetries) =
      if n < maxRetries.toNat then some (wait base cap n) else none := by
  rw [Timer.answer, left_new]
  split
  · next hlt =>
    rw [Nat.min_eq_left (Nat.le_of_lt hlt)]
    exact congrArg (Option.map Prod.fst) (next_of_lt hlt)
  · next hlt =>
    rw [Nat.min_eq_right (by omega)]
    exact congrArg (Option.map Prod.fst) next_of_spent

end Calls

/-! ## Waits in exact arithmetic -/

section Exact

variable (base cap : Duration)

/-- No product that is too long for a duration is below the cap. -/
theorem nanos_wait (n : Nat) :
    (wait base cap n).nanos = min cap.nanos (base.nanos * factor n) := by
  have hcap : cap.nanos < Duration.bound := cap.nanos_lt
  rw [wait, Duration.nanos_min, Duration.times, Duration.nanos_ofNanos]
  change min (min _ _) _ = _
  omega

/-- A bounded factor makes no difference just if it is the factor, or if the cap is reached
with the bound. -/
theorem min_mul_min_eq_iff {cap base k bound : Nat} :
    min cap (base * min k bound) = min cap (base * k) ↔
      k ≤ bound ∨ base = 0 ∨ cap ≤ base * bound := by
  by_cases hle : k ≤ bound
  · simp [hle]
  · rw [Nat.min_eq_right (Nat.le_of_not_le hle)]
    obtain rfl | hbase := Nat.eq_zero_or_pos base
    · simp
    · have hproduct : base * bound < base * k :=
        Nat.mul_lt_mul_of_pos_left (Nat.lt_of_not_le hle) hbase
      omega

/-- **Waits are doubled** as long as the factor fits in 32 bits, and as long as that is so they
are exact: no product is too long for its cap.  Beyond, the factor stays where it is, which makes
no difference just if the base is zero or the cap was reached. -/
theorem doubled_iff (maxRetries : UInt32) {n : Nat} (h : n < maxRetries.toNat) :
    ∃ wait, Timer.answer n (new base cap maxRetries) = some wait ∧
      wait.nanos = min cap.nanos (base.nanos * min (2 ^ n) (2 ^ 32 - 1)) ∧
      (wait.nanos = min cap.nanos (base.nanos * 2 ^ n) ↔
        n < 32 ∨ base.nanos = 0 ∨ cap.nanos ≤ base.nanos * (2 ^ 32 - 1)) := by
  have hnanos : (wait base cap n).nanos = min cap.nanos (base.nanos * min (2 ^ n) maxFactor) := by
    rw [nanos_wait, factor_eq]
  refine ⟨wait base cap n, ?_, hnanos, ?_⟩
  · rw [answer_new, if_pos h]
  · rw [hnanos, ← two_pow_le_maxFactor_iff]
    exact min_mul_min_eq_iff

end Exact

/-- The wait after forty others is as long as its cap in either way. -/
theorem doubled_iff_forty :
    let base : Duration := .ofMillis 1
    let cap : Duration := .ofSecs 60
    40 < (64 : UInt32).toNat ∧
      ∃ wait, Timer.answer 40 (new base cap 64) = some wait ∧
        wait.nanos = min cap.nanos (base.nanos * min (2 ^ 40) (2 ^ 32 - 1)) ∧
        (wait.nanos = min cap.nanos (base.nanos * 2 ^ 40) ↔
          40 < 32 ∨ base.nanos = 0 ∨ cap.nanos ≤ base.nanos * (2 ^ 32 - 1)) := by
  intro base cap
  have hlt : 40 < (64 : UInt32).toNat := by decide
  exact ⟨hlt, doubled_iff base cap 64 hlt⟩

/-- **One nanosecond short**: from a base of a nanosecond up to a cap of ten seconds, the wait
after 32 others is not 2³² nanoseconds long. -/
theorem nanosecond_lost :
    let base : Duration := .ofNanos 1
    let cap : Duration := .ofSecs 10
    32 < (33 : UInt32).toNat ∧
      (Timer.answer 32 (new base cap 33)).map Duration.nanos = some 4294967295 ∧
      min cap.nanos (base.nanos * 2 ^ 32) = 4294967296 := by
  intro base cap
  have hanswer : Timer.answer 32 (new base cap 33) = some (wait base cap 32) := by
    rw [answer_new, if_pos (by decide)]
  refine ⟨by decide, ?_, by decide⟩
  rw [hanswer, Option.map_some, nanos_wait]
  decide

end StackPlaybook.Backoff
