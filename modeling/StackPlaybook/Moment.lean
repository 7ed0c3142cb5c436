import StackPlaybook.Duration

/-!
# StackPlaybook.Moment

Instants of the calendar clock: nanoseconds from the epoch, whose whole seconds fit
in 64 bits with a sign.
-/

namespace StackPlaybook

structure Moment where
  nanos : Int
  le_nanos : -(0x8000000000000000 * 1000000000) ≤ nanos := by omega
  nanos_lt : nanos < 0x8000000000000000 * 1000000000 := by omega
  deriving DecidableEq, Repr

namespace Moment

instance : Inhabited Moment := ⟨⟨0, by decide, by decide⟩⟩

/-- The instant `d` earlier, if the clock reaches back so far. -/
def before? (m : Moment) (d : Duration) : Option Moment :=
  if h : -(0x8000000000000000 * 1000000000) ≤ m.nanos - d.nanos then
    some ⟨m.nanos - d.nanos, h, by have := m.nanos_lt; omega⟩
  else none

end Moment

end StackPlaybook
