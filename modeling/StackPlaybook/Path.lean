/-!
# StackPlaybook.Path

File paths as text: joining two, and the folder that a path lies in.
-/

namespace StackPlaybook.Path

def isAbsolute (path : List Char) : Bool := path.head? == some '/'

/-- A path taken from the folder `base`: an absolute path stays, any other is put
after the base and one slash. -/
def resolve (base path : String) : String :=
  if isAbsolute path.toList then path
  else if base = "" then path
  else if base.toList.getLast? = some '/' then base ++ path
  else base ++ "/" ++ path

/-- The path (last character first) without slashes and `.` components at its end; a
root or a lone `.` stays. -/
def trimReversed : List Char → List Char
  | '/' :: c :: cs => trimReversed (c :: cs)
  | '.' :: '/' :: cs => if cs.isEmpty then ['/'] else trimReversed cs
  | cs => cs

/-- The path without its last component, as it was written up to there; the root and
the empty path have none. -/
def parent? (path : String) : Option String :=
  let trimmed := trimReversed path.toList.reverse
  if trimmed = [] ∨ trimmed = ['/'] then none
  else some (String.ofList (trimReversed (trimmed.dropWhile (· != '/'))).reverse)

/-- The folder that the file at a path lies in. -/
def folder (path : String) : String := (parent? path).getD "."

end StackPlaybook.Path
