import StackPlaybook.Json.Value

/-!
# StackPlaybook.Json.Numeral

Number literals, and the numbers that they stand for.

A literal without point and exponent is a whole number as far as 64 bits reach.
Any other keeps the leading digits that fit in 64 bits and is scaled by rounded
powers of ten, one rounding for the digits and one for each scaling.
-/

namespace StackPlaybook.Json

/-- The parts of a number literal: sign, digits before the point, digits after it,
and the exponent with its sign. -/
structure Numeral where
  negative : Bool
  whole : List Nat
  fraction : Option (List Nat)
  exponent : Option (Bool × List Nat)
  deriving Repr, DecidableEq

namespace Numeral

/-! ## Reading a literal -/

def digitOf (c : Char) : Nat := c.toNat - 48

/-- The digits at the front, and what follows them. -/
def takeDigits (cs : List Char) : List Nat × List Char :=
  ((cs.takeWhile Char.isDigit).map digitOf, cs.dropWhile Char.isDigit)

/-- Reads an exponent part, if there is one; it needs a digit. -/
def readExponent : List Char → Option (Option (Bool × List Nat) × List Char)
  | c :: cs =>
    if c = 'e' ∨ c = 'E' then
      let (down, cs) := match cs with
        | '+' :: cs => (false, cs)
        | '-' :: cs => (true, cs)
        | cs => (false, cs)
      match takeDigits cs with
      | ([], _) => none
      | (ds, rest) => some (some (down, ds), rest)
    else some (none, c :: cs)
  | [] => some (none, [])

/-- Reads a fraction part, if there is one; it needs a digit. -/
def readFraction : List Char → Option (Option (List Nat) × List Char)
  | '.' :: cs =>
    match takeDigits cs with
    | ([], _) => none
    | (ds, rest) => some (some ds, rest)
  | cs => some (none, cs)

/-- Accepts exactly the number literals: no sign `+`, no leading zero, digits on
both sides of a point. -/
def read? (cs : List Char) : Option Numeral := do
  let (negative, cs) := match cs with
    | '-' :: cs => (true, cs)
    | cs => (false, cs)
  let (whole, cs) := takeDigits cs
  guard (whole ≠ [] ∧ (whole.head? = some 0 → whole.length = 1))
  let (fraction, cs) ← readFraction cs
  let (exponent, cs) ← readExponent cs
  guard (cs = [])
  return ⟨negative, whole, fraction, exponent⟩

/-! ## The number -/

/-- Leading digits kept as long as they fit in 64 bits, and the power of ten that
they are to be scaled by. -/
structure Scaled where
  significand : Nat
  scale : Int

def fits (n : Nat) : Bool := n < 0x10000000000000000

/-- Digits before the point: kept while they fit; the others only count. -/
def Scaled.addWhole (s : Scaled) : List Nat → Scaled
  | [] => s
  | d :: ds =>
    if s.scale = 0 && fits (s.significand * 10 + d) then
      addWhole ⟨s.significand * 10 + d, 0⟩ ds
    else addWhole ⟨s.significand, s.scale + 1⟩ ds

/-- Digits after the point: kept while they fit; from the first that does not, all
are dropped. -/
def Scaled.addFraction (s : Scaled) : List Nat → Scaled
  | [] => s
  | d :: ds =>
    if fits (s.significand * 10 + d) then addFraction ⟨s.significand * 10 + d, s.scale - 1⟩ ds
    else s

/-- Multiplies by a power of ten, at most 308 places at a time; going down takes as
many steps as needed, going up only one. -/
def scaleBy : Nat → Binary64 → Int → Option Binary64
  | 0, x, _ => some x
  | fuel + 1, x, scale =>
    if scale.natAbs ≤ 308 then do
      let power ← Binary64.ofNat false (Nat.pow 10 scale.natAbs)
      if 0 ≤ scale then x.mul power else x.div power
    else if x.mantissa = 0 then some x
    else if 0 ≤ scale then none
    else do
      let power ← Binary64.ofNat false (Nat.pow 10 308)
      scaleBy fuel (← x.div power) (scale + 308)

/-- The value of an exponent part, or none where it does not fit in 31 bits. -/
def exponentValue (ds : List Nat) : Option Nat :=
  ds.foldlM (fun n d => if n * 10 + d < 0x80000000 then some (n * 10 + d) else none) 0

/-- The rounded number of a literal with a point, an exponent or too many digits. -/
def real? (n : Numeral) : Option Binary64 := do
  let s := (Scaled.mk 0 0).addWhole n.whole
  let s := match n.fraction with
    | some ds => s.addFraction ds
    | none => s
  match n.exponent with
  | none => withScale s.significand s.scale
  | some (down, ds) =>
    match exponentValue ds with
    | some e => withScale s.significand (if down then s.scale - e else s.scale + e)
    | none =>
      if s.significand ≠ 0 ∧ ¬ down then none else some (Binary64.zero n.negative)
where
  withScale (significand : Nat) (scale : Int) : Option Binary64 := do
    let x ← Binary64.ofNat n.negative significand
    -- a number below 2⁶⁴ is zero after three steps down
    scaleBy 4 x scale

/-- The value of a literal, or none where it is beyond the range.  A whole number
outside 64 bits, and `-0`, is a real. -/
def value? (n : Numeral) : Option Value :=
  let magnitude := n.whole.foldl (fun m d => m * 10 + d) 0
  if n.fraction.isNone && n.exponent.isNone &&
      (if n.negative then 0 < magnitude && magnitude ≤ 0x8000000000000000 else fits magnitude) then
    some (.int (if n.negative then -(magnitude : Int) else magnitude))
  else n.real?.map .real

end Numeral

end StackPlaybook.Json
