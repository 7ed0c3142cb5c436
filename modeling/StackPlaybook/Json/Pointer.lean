import StackPlaybook.Json.Value
import StackPlaybook.Text.Search

/-!
# StackPlaybook.Json.Pointer

JSON pointers: the empty text for the whole value, and otherwise a `/` before each
field name or list index on the way.
-/

namespace StackPlaybook.Json

/-- A reference token as the name it stands for: `~1` for `/`, then `~0` for `~`. -/
def unescapeToken (token : List Char) : String :=
  Text.replace (Text.replace (String.ofList token) "~1" "/") "~0" "~"

/-- A list index: decimal digits without a leading zero. -/
def index? (token : String) : Option Nat :=
  match token.toList with
  | [] => none
  | ['0'] => some 0
  | '0' :: _ => none
  | cs => if cs.all Char.isDigit then
      some (cs.foldl (fun n c => n * 10 + (c.toNat - 48)) 0) else none

/-- The value that a list of tokens leads to. -/
def Value.walk : List String → Value → Option Value
  | [], v => some v
  | token :: tokens, v =>
    match v with
    | .record fields => (fields.lookup token).bind (walk tokens)
    | .list items => ((index? token).bind (items[·]?)).bind (walk tokens)
    | _ => none

/-- The value that a pointer leads to. -/
def Value.pointer? (v : Value) (pointer : String) : Option Value :=
  match pointer.toList with
  | [] => some v
  | '/' :: rest => v.walk ((Text.splitAt '/' rest).map unescapeToken)
  | _ => none

end StackPlaybook.Json
