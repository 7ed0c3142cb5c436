/-!
# StackPlaybook.Text.Blank

The blank characters of Unicode (property `White_Space`) and the trimming that
goes by them.  Placeholders, expected outputs and captured error texts all use
this one class.
-/

namespace StackPlaybook.Text

/-! ## The class -/

/-- The characters with the Unicode property `White_Space`. -/
def isBlank (c : Char) : Bool :=
  let n := c.toNat
  (9 ≤ n && n ≤ 13) || n == 0x20 || n == 0x85 || n == 0xA0 || n == 0x1680 ||
  (0x2000 ≤ n && n ≤ 0x200A) || n == 0x2028 || n == 0x2029 || n == 0x202F ||
  n == 0x205F || n == 0x3000

/-! ## Trimming -/

/-- The characters without the blanks at their front. -/
def trimFront (cs : List Char) : List Char := cs.dropWhile isBlank

/-- The characters without the blanks at their end. -/
def trimEnd (cs : List Char) : List Char := (trimFront cs.reverse).reverse

/-- The text without the blanks at either end. -/
def trim (s : String) : String := String.ofList (trimEnd (trimFront s.toList))

end StackPlaybook.Text
