import StackPlaybook.Json.Numeral
import StackPlaybook.Text.Utf8

/-!
# StackPlaybook.Json.Token

The tokens of a JSON text, read by a machine that takes one character at a time.

A string whose escapes name half a surrogate pair is a token without text: it may
stand where its text is not asked for.
-/

namespace StackPlaybook.Json

inductive Token where
  | openList
  | closeList
  | openRecord
  | closeRecord
  | comma
  | colon
  | null
  | bool (b : Bool)
  | number (n : Numeral)
  | text (s : Option String)

namespace Token

/-! ## Strings under way -/

/-- The characters of a string read so far, last first; the first half of a
surrogate pair that waits for its second; and whether all halves found theirs. -/
structure Spelling where
  done : List Char
  half : Option Nat
  sound : Bool

namespace Spelling

def start : Spelling := ⟨[], none, true⟩

/-- Adds a character; a half that was waiting stays alone. -/
def add (s : Spelling) (c : Char) : Spelling := ⟨c :: s.done, none, s.sound && s.half.isNone⟩

/-- Adds a UTF-16 unit given by its number. -/
def addUnit (s : Spelling) (u : Nat) : Spelling :=
  if 0xDC00 ≤ u ∧ u ≤ 0xDFFF then
    match s.half with
    | some h => ⟨Char.ofNat (0x10000 + (h - 0xD800) * 0x400 + (u - 0xDC00)) :: s.done, none, s.sound⟩
    | none => ⟨s.done, none, false⟩
  else if 0xD800 ≤ u ∧ u ≤ 0xDBFF then ⟨s.done, some u, s.sound && s.half.isNone⟩
  else s.add (Char.ofNat u)

/-- The text, if no half was left alone. -/
def finish (s : Spelling) : Option String :=
  if s.sound && s.half.isNone then some (String.ofList s.done.reverse) else none

end Spelling

/-! ## The machine -/

/-- What the machine is in the middle of. -/
inductive Place where
  | between
  | word (letters : List Char)
  | digits (cs : List Char)
  | inside (s : Spelling)
  | escape (s : Spelling)
  | unit (s : Spelling) (seen value : Nat)

/-- The token of one punctuation character. -/
def punctuation? (c : Char) : Option Token :=
  if c = '[' then some .openList
  else if c = ']' then some .closeList
  else if c.toNat = 0x7B then some .openRecord
  else if c.toNat = 0x7D then some .closeRecord
  else if c = ',' then some .comma
  else if c = ':' then some .colon
  else none

/-- The token of a word. -/
def ofWord? (letters : List Char) : Option Token :=
  if letters = ['n', 'u', 'l', 'l'] then some .null
  else if letters = ['t', 'r', 'u', 'e'] then some (.bool true)
  else if letters = ['f', 'a', 'l', 's', 'e'] then some (.bool false)
  else none

/-- The character of a one-letter escape. -/
def escaped? (c : Char) : Option Char :=
  if c = '"' ∨ c = '\\' ∨ c = '/' then some c
  else if c = 'b' then some (Char.ofNat 8)
  else if c = 'f' then some (Char.ofNat 12)
  else if c = 'n' then some '\n'
  else if c = 'r' then some '\r'
  else if c = 't' then some '\t'
  else none

def isNumberChar (c : Char) : Bool :=
  c.isDigit || c == '-' || c == '+' || c == '.' || c == 'e' || c == 'E'

/-- Starts a token, or passes over a blank. -/
def begin (c : Char) : Option (List Token × Place) :=
  if c = ' ' ∨ c = '\t' ∨ c = '\n' ∨ c = '\r' then some ([], .between)
  else if c = '"' then some ([], .inside .start)
  else if c.isDigit ∨ c = '-' then some ([], .digits [c])
  else if c.isLower then some ([], .word [c])
  else (punctuation? c).map fun t => ([t], .between)

/-- Ends the token under way. -/
def flush : Place → Option (List Token)
  | .between => some []
  | .word letters => (ofWord? letters.reverse).map fun t => [t]
  | .digits cs => (Numeral.read? cs.reverse).map fun n => [.number n]
  | _ => none

/-- Ends the token under way and starts another at `c`. -/
def turn (place : Place) (c : Char) : Option (List Token × Place) := do
  let ended ← flush place
  let (begun, place) ← begin c
  return (ended ++ begun, place)

/-- One character: the tokens that it completes, and what the machine is in after. -/
def step (place : Place) (c : Char) : Option (List Token × Place) :=
  match place with
  | .between => begin c
  | .word letters => if c.isLower then some ([], .word (c :: letters)) else turn place c
  | .digits cs => if isNumberChar c then some ([], .digits (c :: cs)) else turn place c
  | .inside s =>
    if c = '"' then some ([.text s.finish], .between)
    else if c = '\\' then some ([], .escape s)
    else if c.toNat < 32 then none
    else some ([], .inside (s.add c))
  | .escape s =>
    if c = 'u' then some ([], .unit s 0 0)
    else (escaped? c).map fun e => ([], .inside (s.add e))
  | .unit s seen value => do
    let d ← Bytes.hexDigit? c
    let value := value * 16 + d
    if seen = 3 then return ([], .inside (s.addUnit value))
    else return ([], .unit s (seen + 1) value)

/-- The tokens of a text, or none where it holds something that is no token. -/
def scan (place : Place) : List Char → Option (List Token)
  | [] => flush place
  | c :: cs => do
    let (ts, place) ← step place c
    let rest ← scan place cs
    return ts ++ rest

end Token

end StackPlaybook.Json
