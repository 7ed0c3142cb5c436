/-!
# StackPlaybook.Duration

Lengths of time in whole nanoseconds, up to the largest one whose seconds fit in
64 bits.  Multiplication saturates there; the text of a duration uses the largest
unit that leaves a whole part.
-/

namespace StackPlaybook

/-- A length of time below 2⁶⁴ seconds, counted in nanoseconds. -/
structure Duration where
  nanos : Nat
  nanos_lt : nanos < 0x10000000000000000 * 1000000000 := by omega
  deriving DecidableEq, Repr

namespace Duration

/-- The number of durations: one more than the nanoseconds of the longest. -/
abbrev bound : Nat := 0x10000000000000000 * 1000000000

/-- The duration of `n` nanoseconds, or the longest one where that is too long. -/
def ofNanos (n : Nat) : Duration :=
  if h : n < bound then ⟨n, h⟩ else ⟨bound - 1, by decide⟩

def ofMillis (n : Nat) : Duration := ofNanos (n * 1000000)

def ofSecs (n : Nat) : Duration := ofNanos (n * 1000000000)

/-- The duration of whole seconds and further nanoseconds. -/
def ofParts (secs nanos : Nat) : Duration := ofNanos (secs * 1000000000 + nanos)

def zero : Duration := ⟨0, by decide⟩

instance : Inhabited Duration := ⟨zero⟩

/-- A length that is too long is cut to the longest one. -/
@[simp] theorem nanos_ofNanos (n : Nat) : (ofNanos n).nanos = min n (bound - 1) := by
  unfold ofNanos
  split
  · next h => simp only; omega
  · next h => simp only; omega

/-- Milliseconds that fit in 64 bits are not too long. -/
theorem nanos_ofMillis {n : Nat} (h : n < 0x10000000000000000) : (ofMillis n).nanos = n * 1000000 := by
  have hbound : n * 1000000 ≤ 0x10000000000000000 * 1000000000 - 1 := by omega
  rw [ofMillis, nanos_ofNanos]
  exact Nat.min_eq_left hbound

/-- Whole seconds. -/
def secs (d : Duration) : Nat := d.nanos / 1000000000

/-- Nanoseconds beyond the whole seconds. -/
def subsecNanos (d : Duration) : Nat := d.nanos % 1000000000

/-- Whole milliseconds. -/
def millis (d : Duration) : Nat := d.nanos / 1000000

/-- The shorter of two durations. -/
def min (a b : Duration) : Duration := if a.nanos ≤ b.nanos then a else b

/-- The shorter of two durations has the fewer nanoseconds. -/
@[simp] theorem nanos_min (a b : Duration) : (a.min b).nanos = Nat.min a.nanos b.nanos := by
  unfold min
  split
  · next h => exact (Nat.min_eq_left h).symm
  · next h => exact (Nat.min_eq_right (by omega)).symm

/-- `k` times the duration, or the longest one where that is too long. -/
def times (d : Duration) (k : Nat) : Duration := ofNanos (d.nanos * k)

/-! ## Text -/

/-- A fraction `part / 10 ^ places` as the digits after the point, without the
zeros at the end; `places` counts the digits before they are dropped. -/
def fractionText (part places : Nat) : String :=
  let digits := (toString part).toList
  let padded := List.replicate (places - digits.length) '0' ++ digits
  match (padded.reverse.dropWhile (· == '0')).reverse with
  | [] => ""
  | kept => "." ++ String.ofList kept

/-- The duration in seconds, milliseconds, microseconds or nanoseconds, whichever
is the largest unit with a whole part: `500ms`, `1.5s`, `999.999µs`, `1ns`. -/
def text (d : Duration) : String :=
  if 1000000000 ≤ d.nanos then
    toString d.secs ++ fractionText d.subsecNanos 9 ++ "s"
  else if 1000000 ≤ d.nanos then
    toString (d.nanos / 1000000) ++ fractionText (d.nanos % 1000000) 6 ++ "ms"
  else if 1000 ≤ d.nanos then
    toString (d.nanos / 1000) ++ fractionText (d.nanos % 1000) 3 ++ "µs"
  else
    toString d.nanos ++ "ns"

end Duration

end StackPlaybook
