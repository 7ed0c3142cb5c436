/-!
# StackPlaybook.Toml.Scalar

The values of TOML that are written as one word: numbers, truth values, dates and
times.  Of reals and dates only that they are well formed is kept.
-/

namespace StackPlaybook.Toml

/-- A value written as one word. -/
inductive Scalar where
  | int (n : Int)
  | real
  | bool (b : Bool)
  | date
  deriving DecidableEq, Repr

namespace Scalar

/-! ## Digits -/

def isHex (c : Char) : Bool := c.isDigit || ('a' ≤ c && c ≤ 'f') || ('A' ≤ c && c ≤ 'F')

/-- Digits of one kind, each underscore between two of them. -/
def groups? (isDigit : Char → Bool) : List Char → Option (List Char)
  | [] => none
  | [c] => if isDigit c then some [c] else none
  | c :: '_' :: cs => if isDigit c then (groups? isDigit cs).map (c :: ·) else none
  | c :: cs => if isDigit c then (groups? isDigit cs).map (c :: ·) else none

def digitValue (c : Char) : Nat :=
  if c.isDigit then c.toNat - 48 else if c.isLower then c.toNat - 87 else c.toNat - 55

def valueOf (base : Nat) (digits : List Char) : Nat :=
  digits.foldl (fun n c => n * base + digitValue c) 0

/-- Digits without a zero in front of others. -/
def decimal? (cs : List Char) : Option (List Char) := do
  let ds ← groups? Char.isDigit cs
  guard (ds.head? ≠ some '0' ∨ ds.length = 1)
  return ds

/-- A sign, and what follows it. -/
def splitSign : List Char → Bool × List Char
  | '-' :: cs => (true, cs)
  | '+' :: cs => (false, cs)
  | cs => (false, cs)

/-! ## Numbers -/

def inRange (n : Int) : Bool := -0x8000000000000000 ≤ n && n < 0x8000000000000000

/-- A whole number of 64 bits, in base ten or after `0x`, `0o` or `0b`. -/
def int? (cs : List Char) : Option Int := do
  let n : Int ← match cs with
    | '0' :: 'x' :: cs => (groups? isHex cs).map fun ds => (valueOf 16 ds : Int)
    | '0' :: 'o' :: cs =>
      (groups? (fun c => '0' ≤ c && c ≤ '7') cs).map fun ds => (valueOf 8 ds : Int)
    | '0' :: 'b' :: cs => (groups? (fun c => c == '0' || c == '1') cs).map fun ds => (valueOf 2 ds : Int)
    | cs =>
      let (negative, cs) := splitSign cs
      (decimal? cs).map fun ds =>
        if negative then -(valueOf 10 ds : Int) else (valueOf 10 ds : Int)
  guard (inRange n)
  return n

/-- Whether an exponent is well formed. -/
def isExponent (cs : List Char) : Bool := (groups? Char.isDigit (splitSign cs).2).isSome

/-- Whether a word is a real number: whole part, then a fraction or an exponent or
both; or infinity or the undefined number by name. -/
def isReal (cs : List Char) : Bool :=
  let cs := (splitSign cs).2
  if cs = ['i', 'n', 'f'] ∨ cs = ['n', 'a', 'n'] then true
  else
    let isE (c : Char) : Bool := c == 'e' || c == 'E'
    let mantissa := cs.takeWhile (fun c => !isE c)
    let exponent := cs.drop mantissa.length
    let whole := mantissa.takeWhile (· != '.')
    let fraction := mantissa.drop whole.length
    (decimal? whole).isSome &&
      (match fraction with
        | [] => !exponent.isEmpty
        | _ :: ds => (groups? Char.isDigit ds).isSome) &&
      (match exponent with
        | [] => true
        | _ :: ds => isExponent ds)

/-! ## Dates and times -/

/-- A number of exactly `n` digits between two bounds, and what follows it. -/
def field? (n low high : Nat) (cs : List Char) : Option (Nat × List Char) := do
  let ds := cs.take n
  guard (ds.length = n ∧ ds.all Char.isDigit)
  let v := valueOf 10 ds
  guard (low ≤ v ∧ v ≤ high)
  return (v, cs.drop n)

def sign? (c : Char) : List Char → Option (List Char)
  | d :: cs => if c = d then some cs else none
  | [] => none

def daysIn (year month : Nat) : Nat :=
  if month = 2 then
    if year % 4 = 0 ∧ (year % 100 ≠ 0 ∨ year % 400 = 0) then 29 else 28
  else if month = 4 ∨ month = 6 ∨ month = 9 ∨ month = 11 then 30
  else 31

/-- Reads `YYYY-MM-DD`. -/
def readDate (cs : List Char) : Option (List Char) := do
  let (year, cs) ← field? 4 0 9999 cs
  let cs ← sign? '-' cs
  let (month, cs) ← field? 2 1 12 cs
  let cs ← sign? '-' cs
  let (_, cs) ← field? 2 1 (daysIn year month) cs
  return cs

/-- Reads `HH:MM:SS` with an optional fraction. -/
def readTime (cs : List Char) : Option (List Char) := do
  let (_, cs) ← field? 2 0 23 cs
  let cs ← sign? ':' cs
  let (_, cs) ← field? 2 0 59 cs
  let cs ← sign? ':' cs
  let (_, cs) ← field? 2 0 60 cs
  match cs with
  | '.' :: rest => if rest.head?.any Char.isDigit then return rest.dropWhile Char.isDigit else none
  | cs => return cs

/-- Whether the rest is an offset from universal time, or nothing. -/
def isOffset : List Char → Bool
  | [] | ['Z'] | ['z'] => true
  | c :: cs =>
    (c == '+' || c == '-') &&
      (do
        let (_, cs) ← field? 2 0 23 cs
        let cs ← sign? ':' cs
        let (_, cs) ← field? 2 0 59 cs
        guard cs.isEmpty).isSome

/-- Whether a word is a date, a time, or both. -/
def isDate (cs : List Char) : Bool :=
  match readDate cs with
  | some [] => true
  | some (c :: cs) =>
    (c == 'T' || c == 't' || c == ' ') && (readTime cs).any isOffset
  | none => readTime cs == some []

/-! ## Words -/

/-- The value of a word. -/
def ofWord? (cs : List Char) : Option Scalar :=
  if cs = ['t', 'r', 'u', 'e'] then some (.bool true)
  else if cs = ['f', 'a', 'l', 's', 'e'] then some (.bool false)
  else if isDate cs then some .date
  else if isReal cs then some .real
  else (int? cs).map .int

end Scalar

end StackPlaybook.Toml
