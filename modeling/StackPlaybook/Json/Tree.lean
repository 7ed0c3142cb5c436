import StackPlaybook.Json.Token
import StackPlaybook.Table

/-!
# StackPlaybook.Json.Tree

The structure of a JSON text, and the values read from it.

A `Tree` is what the grammar says of a text.  A value asks more of it: numbers in
range, strings without half surrogate pairs, and no more than 127 levels.  Parts
of a document that nobody asks for need only be trees.
-/

namespace StackPlaybook.Json

/-- A JSON text by its structure alone. -/
inductive Tree where
  | null
  | bool (b : Bool)
  | number (n : Numeral)
  | text (s : Option String)
  | list (items : List Tree)
  | record (fields : List (Option String × Tree))
  deriving Inhabited

namespace Tree

/-! ## Parsing -/

/-- A list or record that is not closed yet, its parts last first. -/
inductive Frame where
  | list (done : List Tree)
  | record (done : List (Option String × Tree)) (key : Option String)

/-- What may come next. -/
inductive Expect where
  /-- A value. -/
  | value
  /-- A value, or the end of a list just opened. -/
  | valueOrClose
  /-- The name of a field. -/
  | key
  /-- The name of a field, or the end of a record just opened. -/
  | keyOrClose
  /-- The colon after a name. -/
  | colon
  /-- A comma, or the end of the innermost list or record. -/
  | commaOrClose
  /-- Nothing: the tree is complete. -/
  | done (t : Tree)

/-- The open lists and records, innermost first, and what may come next. -/
structure State where
  frames : List Frame
  expect : Expect

/-- Puts a finished tree into the innermost open list or record. -/
def State.put (frames : List Frame) (t : Tree) : State :=
  match frames with
  | [] => ⟨[], .done t⟩
  | .list done :: rest => ⟨.list (t :: done) :: rest, .commaOrClose⟩
  | .record done key :: rest => ⟨.record ((key, t) :: done) key :: rest, .commaOrClose⟩

/-- Takes a token where a value is expected. -/
def State.takeValue (frames : List Frame) : Token → Option State
  | .null => some (.put frames .null)
  | .bool b => some (.put frames (.bool b))
  | .number n => some (.put frames (.number n))
  | .text s => some (.put frames (.text s))
  | .openList => some ⟨.list [] :: frames, .valueOrClose⟩
  | .openRecord => some ⟨.record [] none :: frames, .keyOrClose⟩
  | _ => none

/-- Takes a token where the innermost list or record may end. -/
def State.close : List Frame → Token → Option State
  | .list done :: rest, .closeList => some (.put rest (.list done.reverse))
  | .record done _ :: rest, .closeRecord => some (.put rest (.record done.reverse))
  | _, _ => none

/-- Takes a token where the name of a field is expected. -/
def State.takeKey : List Frame → Token → Option State
  | .record done _ :: rest, .text s => some ⟨.record done s :: rest, .colon⟩
  | _, _ => none

/-- Takes one token. -/
def State.step (s : State) (t : Token) : Option State :=
  match s.expect with
  | .value => State.takeValue s.frames t
  | .valueOrClose => (State.close s.frames t).or (State.takeValue s.frames t)
  | .key => State.takeKey s.frames t
  | .keyOrClose => (State.close s.frames t).or (State.takeKey s.frames t)
  | .colon =>
    match t with
    | .colon => some ⟨s.frames, .value⟩
    | _ => none
  | .commaOrClose =>
    match t, s.frames with
    | .comma, .list _ :: _ => some ⟨s.frames, .value⟩
    | .comma, .record .. :: _ => some ⟨s.frames, .key⟩
    | t, frames => State.close frames t
  | .done _ => none

/-- The tree of a text that is JSON by its structure. -/
def parse? (text : String) : Option Tree := do
  let tokens ← Token.scan .between text.toList
  let final ← tokens.foldlM State.step ⟨[], .value⟩
  match final.expect with
  | .done t => return t
  | _ => none

/-! ## Values -/

/-- The levels of lists and records that a value may have. -/
def maxDepth : Nat := 127

mutual

/-- The value of a tree with at most `room` levels.  Fields are sorted by name; of
fields with one name the last stays. -/
def value? (room : Nat) : Tree → Option Value
  | .null => some .null
  | .bool b => some (.bool b)
  | .number n => n.value?
  | .text s => s.map .text
  | .list items =>
    if room = 0 then none else (values? (room - 1) items).map .list
  | .record fields =>
    if room = 0 then none
    else (fieldValues? (room - 1) fields).map fun fs => .record (Table.ofList fs).entries

def values? (room : Nat) : List Tree → Option (List Value)
  | [] => some []
  | t :: ts => do
    let v ← value? room t
    let vs ← values? room ts
    return v :: vs

def fieldValues? (room : Nat) : List (Option String × Tree) → Option (List (String × Value))
  | [] => some []
  | (key, t) :: fields => do
    let k ← key
    let v ← value? room t
    let rest ← fieldValues? room fields
    return (k, v) :: rest

end

end Tree

/-- The value of a JSON text. -/
def Value.parse? (text : String) : Option Value :=
  (Tree.parse? text).bind (Tree.value? Tree.maxDepth)

/-- The value of JSON given as bytes. -/
def Value.ofBytes? (bs : Bytes) : Option Value := (Bytes.decode? bs).bind Value.parse?

end StackPlaybook.Json
