/-!
# StackPlaybook.Number.Binary64

Finite binary floating-point numbers of 64 bits, kept exactly as sign, mantissa and
exponent.  Every operation computes the exact quotient of natural numbers and rounds
it once, to the nearest number and to the even one of two equally near.
-/

namespace StackPlaybook

/-- The number `± mantissa * 2 ^ exponent`, with a mantissa below 2⁵³ that is at
least 2⁵² unless the exponent is the smallest one, -1074. -/
structure Binary64 where
  negative : Bool
  mantissa : Nat
  exponent : Int
  deriving DecidableEq, Repr

namespace Binary64

/-- Zero has two signs, which compare equal. -/
instance : BEq Binary64 where
  beq a b := (a.mantissa == 0 && b.mantissa == 0) || decide (a = b)

def zero (negative : Bool) : Binary64 := ⟨negative, 0, -1074⟩

/-- A quotient rounded to the nearest whole number, halves to the even one. -/
def roundDiv (num den : Nat) : Nat :=
  let q := num / den
  let twice := 2 * (num % den)
  if den < twice ∨ (den = twice ∧ q % 2 = 1) then q + 1 else q

/-- The number nearest to `num / den`, or none where that is beyond the range. -/
def ofQuotient (negative : Bool) (num den : Nat) : Option Binary64 :=
  if num = 0 then some (zero negative)
  else
    let guess : Int := (Nat.log2 num : Int) - Nat.log2 den - 52
    let scaled (e : Int) : Nat × Nat :=
      if 0 ≤ e then (num, den * Nat.pow 2 e.toNat) else (num * Nat.pow 2 (-e).toNat, den)
    let (n, d) := scaled guess
    let e := if n < d * 0x10000000000000 then guess - 1 else guess
    let e := max e (-1074)
    let (n, d) := scaled e
    let m := roundDiv n d
    let (m, e) := if m = 0x20000000000000 then (0x10000000000000, e + 1) else (m, e)
    if 971 < e then none else some ⟨negative, m, e⟩

/-- The number nearest to a natural number. -/
def ofNat (negative : Bool) (n : Nat) : Option Binary64 := ofQuotient negative n 1

/-- The absolute value as a quotient of natural numbers. -/
def quotient (x : Binary64) : Nat × Nat :=
  if 0 ≤ x.exponent then (x.mantissa * Nat.pow 2 x.exponent.toNat, 1)
  else (x.mantissa, Nat.pow 2 (-x.exponent).toNat)

/-- The rounded product. -/
def mul (x y : Binary64) : Option Binary64 :=
  let (a, b) := x.quotient
  let (c, d) := y.quotient
  ofQuotient (x.negative != y.negative) (a * c) (b * d)

/-- The rounded quotient by a number that is not zero. -/
def div (x y : Binary64) : Option Binary64 :=
  let (a, b) := x.quotient
  let (c, d) := y.quotient
  ofQuotient (x.negative != y.negative) (a * d) (b * c)

end Binary64

end StackPlaybook
