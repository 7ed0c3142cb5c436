import StackPlaybook.Number.Binary64

/-!
# StackPlaybook.Number.Shortest

The fewest decimal digits that read back as a given number, and of those the
nearest to it; and the text written with them.
-/

namespace StackPlaybook.Binary64

/-! ## Digits -/

/-- A decimal `digits * 10 ^ scale`. -/
structure Decimal where
  digits : Nat
  scale : Int
  deriving DecidableEq, Repr

/-- The least `p` for which `num / den < 10 ^ p`, searched upwards from `p`. -/
def decimalPlace (num den : Nat) : Nat → Int → Int
  | 0, p => p
  | fuel + 1, p =>
    let below := if 0 ≤ p then num < den * Nat.pow 10 p.toNat else num * Nat.pow 10 (-p).toNat < den
    if below then p else decimalPlace num den fuel (p + 1)

/-- The decimal without zeros at the end of its digits. -/
def dropZeros : Nat → Decimal → Decimal
  | 0, d => d
  | fuel + 1, d =>
    if d.digits % 10 = 0 ∧ d.digits ≠ 0 then dropZeros fuel ⟨d.digits / 10, d.scale + 1⟩ else d

/-- The shortest decimal that rounds to a number other than zero: the first grid of
1 to 17 digits that has a point among the reals rounding to it. -/
def shortest (x : Binary64) : Decimal :=
  -- in quarters of the last place of the mantissa
  let mid := 4 * x.mantissa
  let low := if x.mantissa = 0x10000000000000 ∧ x.exponent ≠ -1074 then mid - 1 else mid - 2
  let high := mid + 2
  let up := if 2 ≤ x.exponent then Nat.pow 2 (x.exponent - 2).toNat else 1
  let den := if 2 ≤ x.exponent then 1 else Nat.pow 2 (2 - x.exponent).toNat
  let (low, mid, high) := (low * up, mid * up, high * up)
  let place := decimalPlace mid den 700 (-330)
  let closed := x.mantissa % 2 = 0
  let onGrid (k : Nat) : Option Decimal :=
    let scale := place - k
    let (unit, den') := if 0 ≤ scale then (den * Nat.pow 10 scale.toNat, 1)
      else (den, Nat.pow 10 (-scale).toNat)
    -- a point `c` of the grid stands for `c * unit / (den * den')`
    let inside (c : Nat) : Bool :=
      let v := c * unit
      if closed then low * den' ≤ v ∧ v ≤ high * den' else low * den' < v ∧ v < high * den'
    let c := mid * den' / unit
    let below := mid * den' - c * unit
    let above := (c + 1) * unit - mid * den'
    if inside c && inside (c + 1) then
      some ⟨if below < above ∨ (below = above ∧ c % 2 = 0) then c else c + 1, scale⟩
    else if inside c then some ⟨c, scale⟩
    else if inside (c + 1) then some ⟨c + 1, scale⟩
    else none
  match (List.range 17).findSome? (fun k => onGrid (k + 1)) with
  | some d => dropZeros 20 d
  | none => ⟨x.mantissa, x.exponent⟩

/-! ## Text -/

/-- Positional from 10⁻⁵ up to 10¹⁶, always with a point; otherwise one digit, the
point if more follow, and a bare exponent. -/
def text (x : Binary64) : String :=
  let sign := if x.negative then "-" else ""
  if x.mantissa = 0 then sign ++ "0.0"
  else
    let d := x.shortest
    let ds := (toString d.digits).toList
    let point : Int := ds.length + d.scale
    let zeros (n : Int) : List Char := List.replicate n.toNat '0'
    let body : List Char :=
      if 0 ≤ d.scale ∧ point ≤ 16 then ds ++ zeros d.scale ++ ['.', '0']
      else if 0 < point ∧ point ≤ 16 then ds.take point.toNat ++ '.' :: ds.drop point.toNat
      else if -5 < point ∧ point ≤ 0 then '0' :: '.' :: zeros (-point) ++ ds
      else
        let exponent := (toString (point - 1)).toList
        match ds with
        | [c] => c :: 'e' :: exponent
        | c :: rest => c :: '.' :: rest ++ 'e' :: exponent
        | [] => exponent
    sign ++ String.ofList body

end StackPlaybook.Binary64
