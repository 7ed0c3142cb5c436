import StackPlaybook.Duration

/-!
# StackPlaybook.Backoff

How long to wait between the attempts of a scene.  A timer gives one wait after
another until its budget is spent.
-/

namespace StackPlaybook

/-! ## Timers -/

/-- Timers: asked for a wait, one either gives it and goes on, or gives up. -/
class Timer (τ : Type) where
  next : τ → Option (Duration × τ)

/-- Timers that give finitely many waits: each wait lowers the budget. -/
class FiniteTimer (τ : Type) extends Timer τ where
  budget : τ → Nat
  budget_lt {t t' : τ} {d : Duration} : next t = some (d, t') → budget t' < budget t

/-- A timer given by the list of its waits. -/
instance : FiniteTimer (List Duration) where
  next
    | [] => none
    | d :: ds => some (d, ds)
  budget := List.length
  budget_lt {t t' d} h := by
    cases t with
    | nil => cases h
    | cons a as => cases h; simp

/-! ## Exponential backoff -/

/-- A doubling wait, from `base` up to at most `cap`, for `maxRetries` retries. -/
structure Backoff where
  base : Duration
  cap : Duration
  maxRetries : UInt32
  /-- The waits given so far. -/
  retries : UInt32
  deriving DecidableEq, Repr

namespace Backoff

/-- A timer that has given no waits yet. -/
def new (base cap : Duration) (maxRetries : UInt32) : Backoff := ⟨base, cap, maxRetries, 0⟩

def defaultBase : Duration := .ofMillis 100

def defaultCap : Duration := .ofSecs 60

/-- The default timer with another number of retries. -/
def withMaxRetries (n : UInt32) : Backoff := new defaultBase defaultCap n

/-- From 100 milliseconds to a minute, ten times. -/
def default : Backoff := withMaxRetries 10

instance : Inhabited Backoff := ⟨default⟩

/-- The factor of the base after `n` waits: a power of two as long as it fits in 32
bits, and then the largest number of 32 bits. -/
def factor (n : Nat) : Nat := if n < 32 then Nat.pow 2 n else 0xFFFFFFFF

/-- The next wait: the base doubled for each wait given so far, at most the cap. -/
def next (b : Backoff) : Option (Duration × Backoff) :=
  if b.maxRetries ≤ b.retries then none
  else some ((b.base.times (factor b.retries.toNat)).min b.cap, { b with retries := b.retries + 1 })

/-- Every wait that is given costs a retry. -/
theorem budget_lt_of_next {b b' : Backoff} {d : Duration} (h : b.next = some (d, b')) :
    b'.maxRetries.toNat - b'.retries.toNat < b.maxRetries.toNat - b.retries.toNat := by
  unfold next at h
  split at h
  · cases h
  · next hlt =>
    obtain ⟨rfl, rfl⟩ := Prod.mk.inj (Option.some.inj h)
    rw [UInt32.not_le, UInt32.lt_iff_toNat_lt] at hlt
    have hmax := b.maxRetries.toNat_lt
    have : (b.retries + 1).toNat = b.retries.toNat + 1 := by
      rw [UInt32.toNat_add, show (1 : UInt32).toNat = 1 from rfl, Nat.mod_eq_of_lt (by omega)]
    simp only [this]
    omega

instance : FiniteTimer Backoff where
  next := next
  budget b := b.maxRetries.toNat - b.retries.toNat
  budget_lt := budget_lt_of_next

end Backoff

end StackPlaybook
