import StackPlaybook.Json.Value
import StackPlaybook.Number.Shortest

/-!
# StackPlaybook.Json.Writer

JSON values as text, on one line or indented.
-/

namespace StackPlaybook.Json

/-! ## Strings -/

/-- A character inside quotes: quotes, backslashes and control characters escaped,
all else as it is. -/
def escapeChar (c : Char) : List Char :=
  if c = '"' then ['\\', '"']
  else if c = '\\' then ['\\', '\\']
  else if c.toNat = 8 then ['\\', 'b']
  else if c.toNat = 9 then ['\\', 't']
  else if c.toNat = 10 then ['\\', 'n']
  else if c.toNat = 12 then ['\\', 'f']
  else if c.toNat = 13 then ['\\', 'r']
  else if c.toNat < 32 then
    ['\\', 'u', '0', '0', Nat.digitChar (c.toNat / 16), Nat.digitChar (c.toNat % 16)]
  else [c]

def quote (s : String) : String := "\"" ++ String.ofList (s.toList.flatMap escapeChar) ++ "\""

/-! ## Values -/

namespace Value

/-- Braces are written by their codes. -/
def braced (body : String) : String := "\x7b" ++ body ++ "\x7d"

mutual

/-- The value on one line without blanks. -/
def compact : Value → String
  | .null => "null"
  | .bool b => if b then "true" else "false"
  | .int n => toString n
  | .real x => x.text
  | .text s => quote s
  | .list items => "[" ++ ",".intercalate (compactList items) ++ "]"
  | .record fields => braced (",".intercalate (compactFields fields))

def compactList : List Value → List String
  | [] => []
  | v :: vs => compact v :: compactList vs

def compactFields : List (String × Value) → List String
  | [] => []
  | (k, v) :: fields => (quote k ++ ":" ++ compact v) :: compactFields fields

end

/-- A line break and `depth` times two blanks. -/
def newline (depth : Nat) : String := "\n" ++ String.ofList (List.replicate (2 * depth) ' ')

mutual

/-- The value on several lines, two blanks deeper at each level, with `depth` the
level of the line it starts on. -/
def indented (depth : Nat) : Value → String
  | .list [] => "[]"
  | .list items =>
    "[" ++ ",".intercalate (indentedList (depth + 1) items) ++ newline depth ++ "]"
  | .record [] => braced ""
  | .record fields =>
    braced (",".intercalate (indentedFields (depth + 1) fields) ++ newline depth)
  | .null => "null"
  | .bool b => if b then "true" else "false"
  | .int n => toString n
  | .real x => x.text
  | .text s => quote s

def indentedList (depth : Nat) : List Value → List String
  | [] => []
  | v :: vs => (newline depth ++ indented depth v) :: indentedList depth vs

def indentedFields (depth : Nat) : List (String × Value) → List String
  | [] => []
  | (k, v) :: fields =>
    (newline depth ++ quote k ++ ": " ++ indented depth v) :: indentedFields depth fields

end

/-- The value on several lines. -/
def pretty (v : Value) : String := v.indented 0

end Value

end StackPlaybook.Json
