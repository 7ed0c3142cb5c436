import StackPlaybook.Number.Binary64

/-!
# StackPlaybook.Json.Value

JSON values, and the pointers that lead into them.
-/

namespace StackPlaybook.Json

/-- A JSON value.  Whole numbers are those from -2⁶³ to 2⁶⁴ - 1; the fields of a
record stand in the order in which they are written. -/
inductive Value where
  | null
  | bool (b : Bool)
  | int (n : Int)
  | real (x : Binary64)
  | text (s : String)
  | list (items : List Value)
  | record (fields : List (String × Value))
  deriving BEq, Inhabited

namespace Value

/-- The value of a field of a record. -/
def field? (v : Value) (name : String) : Option Value :=
  match v with
  | .record fields => fields.lookup name
  | _ => none

def text? : Value → Option String
  | .text s => some s
  | _ => none

def bool? : Value → Option Bool
  | .bool b => some b
  | _ => none

def nat? : Value → Option Nat
  | .int n => if 0 ≤ n then some n.toNat else none
  | _ => none

def list? : Value → Option (List Value)
  | .list items => some items
  | _ => none

end Value

end StackPlaybook.Json
