/-!
# StackPlaybook.Yaml.Cursor

The characters of YAML, and a cursor that knows where in the text it stands.

Line breaks are made uniform before anything is scanned: `\r\n`, `\r` and U+0085 count
as `\n`.  The separators U+2028 and U+2029 end a line as well but are kept as they are.
-/

namespace StackPlaybook.Yaml

/-! ## Characters -/

def isBlank (c : Char) : Bool := c == ' ' || c == '\t'

def isBreak (c : Char) : Bool := c == '\n' || c.toNat == 0x2028 || c.toNat == 0x2029

/-- Characters of the names of anchors and tag handles. -/
def isWord (c : Char) : Bool := c.isAlphanum || c == '_' || c == '-'

/-- Characters that end the items of a flow collection. -/
def isFlowMark (c : Char) : Bool := c == ',' || c == '[' || c == ']' || c == '{' || c == '}'

/-- Characters that a document may hold. -/
def isAllowed (c : Char) : Bool :=
  let n := c.toNat
  n == 9 || n == 10 || n == 13 || (0x20 ≤ n && n ≤ 0x7E) || n == 0x85 ||
    (0xA0 ≤ n && n ≤ 0xFFFD) || 0x10000 ≤ n

/-- Whether a character is missing, blank or a line break. -/
def isGap : Option Char → Bool
  | none => true
  | some c => isBlank c || isBreak c

/-- The text with uniform line breaks. -/
def uniform : List Char → List Char
  | '\r' :: '\n' :: cs => '\n' :: uniform cs
  | c :: cs => (if c == '\r' || c.toNat == 0x85 then '\n' else c) :: uniform cs
  | [] => []

/-! ## Cursors -/

/-- The rest of a text, with the place at which it begins. -/
structure Cursor where
  rest : List Char
  index : Nat
  line : Nat
  column : Nat
  deriving Inhabited

namespace Cursor

def start (cs : List Char) : Cursor := ⟨cs, 0, 0, 0⟩

/-- The next character. -/
def head (c : Cursor) : Option Char := c.rest.head?

/-- The character `n` places ahead. -/
def ahead (c : Cursor) (n : Nat) : Option Char := c.rest[n]?

/-- The cursor after one character. -/
def next (c : Cursor) : Cursor :=
  match c.rest with
  | [] => c
  | ch :: rest =>
    if isBreak ch then ⟨rest, c.index + 1, c.line + 1, 0⟩
    else ⟨rest, c.index + 1, c.line, c.column + 1⟩

/-- The cursor after several characters. -/
def advance : Nat → Cursor → Cursor
  | 0, c => c
  | n + 1, c => advance n c.next

/-- The characters at the front that satisfy `p`, and the cursor after them. -/
def span (p : Char → Bool) (c : Cursor) : List Char × Cursor :=
  let taken := c.rest.takeWhile p
  (taken, advance taken.length c)

def skipBlanks (c : Cursor) : Cursor := (c.span isBlank).2

/-- The cursor after a comment, if there is one, at the end of its line. -/
def skipComment (c : Cursor) : Cursor :=
  if c.head = some '#' then (c.span (!isBreak ·)).2 else c

/-- Whether a blank, a line break or the end of the text follows. -/
def atGap (c : Cursor) : Bool := isGap c.head

def atEnd (c : Cursor) : Bool := c.rest.isEmpty

def atBreak (c : Cursor) : Bool := c.head.any isBreak

/-- Whether the line begins with a mark of three characters on its own. -/
def atMark (mark : Char) (c : Cursor) : Bool :=
  c.column == 0 && c.rest.take 3 == [mark, mark, mark] && isGap (c.ahead 3)

/-- Whether the line begins with `---` or `...`. -/
def atDocumentMark (c : Cursor) : Bool := c.atMark '-' || c.atMark '.'

/-- The rest of a line with nothing but blanks and a comment, and its line break. -/
def endLine (c : Cursor) : Option Cursor :=
  let c := c.skipBlanks.skipComment
  if c.atEnd then some c else if c.atBreak then some c.next else none

end Cursor

end StackPlaybook.Yaml
