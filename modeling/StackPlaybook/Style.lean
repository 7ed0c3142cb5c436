import StackPlaybook.Text.Search

/-!
# StackPlaybook.Style

Colours and weights of text on a terminal, as ANSI escape sequences.
-/

namespace StackPlaybook

/-- The looks that reports use. -/
inductive Style where
  | bold
  | dimmed
  | red
  | green
  | yellow
  | cyan
  | white
  | boldRed
  | boldGreen
  | boldBlue
  | boldWhite
  deriving DecidableEq, Repr

namespace Style

/-- The codes of a look, the weight before the colour. -/
def codes : Style → String
  | .bold => "1"
  | .dimmed => "2"
  | .red => "31"
  | .green => "32"
  | .yellow => "33"
  | .cyan => "36"
  | .white => "37"
  | .boldRed => "1;31"
  | .boldGreen => "1;32"
  | .boldBlue => "1;34"
  | .boldWhite => "1;37"

/-- The sequence that ends every look. -/
def reset : String := "\x1b[0m"

/-- A text in a look, where colours are on; a look that ends inside the text is taken
up again after it. -/
def paint (style : Style) (on : Bool) (text : String) : String :=
  if on then
    let start := "\x1b[" ++ style.codes ++ "m"
    start ++ Text.replace text reset (reset ++ start) ++ reset
  else text

end Style

end StackPlaybook
