import StackPlaybook.Text.Utf8
import StackPlaybook.Yaml.Cursor

/-!
# StackPlaybook.Yaml.Scalar

The scalars of YAML: plain, quoted and block scalars.

Words of plain and quoted scalars are joined over gaps.  A gap inside a line is kept;
one line break is read as a space, and of several the first is dropped.
-/

namespace StackPlaybook.Yaml

/-! ## Gaps -/

/-- What stands between two words: blanks inside a line, or line breaks. -/
inductive Gap where
  | blanks (cs : List Char)
  /-- The first line break, missing where a backslash hid it, and those after it. -/
  | breaks (first : Option Char) (more : List Char)

namespace Gap

/-- What a gap is read as. -/
def fold : Gap → List Char
  | .blanks cs => cs
  | .breaks (some '\n') [] => [' ']
  | .breaks (some '\n') more => more
  | .breaks first more => first.toList ++ more

def isBroken : Gap → Bool
  | .blanks _ => false
  | .breaks .. => true

/-- Extends a gap by the blanks and line breaks ahead.  At the front of a line no tab
may stand in a column below `level`. -/
def extend (level : Nat) : Nat → Gap → Cursor → Option (Gap × Cursor)
  | 0, _, _ => none
  | fuel + 1, gap, c =>
    match c.head with
    | none => some (gap, c)
    | some ch =>
      if isBlank ch then
        match gap with
        | .blanks cs => extend level fuel (.blanks (cs ++ [ch])) c.next
        | .breaks .. => if ch == '\t' && c.column < level then none else extend level fuel gap c.next
      else if isBreak ch then
        match gap with
        | .blanks _ => extend level fuel (.breaks (some ch) []) c.next
        | .breaks first more => extend level fuel (.breaks first (more ++ [ch])) c.next
      else some (gap, c)

end Gap

/-! ## Plain scalars -/

/-- The characters of a word of a plain scalar.  Inside a flow collection a colon may
not stand before a mark of the collection. -/
def plainWord (flow : Bool) : List Char → Option (List Char)
  | [] => some []
  | ch :: rest =>
    if isGap (some ch) then some []
    else if ch == ':' && flow && rest.head?.any (fun c => isFlowMark c || c == '?') then none
    else if ch == ':' && isGap rest.head? then some []
    else if flow && isFlowMark ch then some []
    else (plainWord flow rest).map (ch :: ·)

/-- The words of a plain scalar after some text and a gap.  Outside of flow
collections further lines must reach the column `level`.  Given back are the text,
whether a line break was passed at its end, and the cursor. -/
def plainWords (flow : Bool) (level : Nat) :
    Nat → (text : List Char) → Gap → Cursor → Option (List Char × Bool × Cursor)
  | 0, _, _, _ => none
  | fuel + 1, text, gap, c =>
    if c.atDocumentMark || c.head == some '#' then some (text, gap.isBroken, c)
    else do
      let word ← plainWord flow c.rest
      let c := c.advance word.length
      let (text, gap) := if word.isEmpty then (text, gap) else (text ++ gap.fold ++ word, .blanks [])
      if c.atEnd || !c.atGap then some (text, gap.isBroken, c)
      else
        let (gap, c) ← gap.extend level fuel c
        if !flow && c.column < level then some (text, gap.isBroken, c)
        else plainWords flow level fuel text gap c

/-- A plain scalar: its text, and whether a line break was passed after it. -/
def plainScalar (flow : Bool) (level : Nat) (c : Cursor) : Option (String × Bool × Cursor) := do
  let (text, broken, c) ← plainWords flow level (c.rest.length + 1) [] (.blanks []) c
  return (String.ofList text, broken, c)

/-! ## Quoted scalars -/

/-- The value of hexadecimal digits. -/
def hexValue? (cs : List Char) : Option Nat :=
  cs.foldlM (fun n c => (Bytes.hexDigit? c).map (n * 16 + ·)) 0

/-- The character with a code, where there is one. -/
def charOf? (n : Nat) : Option Char := if h : n.isValidChar then some (Char.ofNatAux n h) else none

/-- The character that an escape after a backslash stands for, and the number of its
characters. -/
def escape? : List Char → Option (Char × Nat)
  | [] => none
  | c :: cs =>
    let code (digits : Nat) : Option (Char × Nat) := do
      let ds := cs.take digits
      guard (ds.length = digits)
      return (← charOf? (← hexValue? ds), digits + 1)
    let plain (n : Nat) : Option (Char × Nat) := (charOf? n).map fun c => (c, 1)
    match c with
    | '0' => plain 0
    | 'a' => plain 7
    | 'b' => plain 8
    | 't' | '\t' => plain 9
    | 'n' => plain 10
    | 'v' => plain 11
    | 'f' => plain 12
    | 'r' => plain 13
    | 'e' => plain 0x1B
    | 'N' => plain 0x85
    | '_' => plain 0xA0
    | 'L' => plain 0x2028
    | 'P' => plain 0x2029
    | ' ' | '"' | '/' | '\\' => some (c, 1)
    | 'x' => code 2
    | 'u' => code 4
    | 'U' => code 8
    | _ => none

/-- A word of a quoted scalar, up to a gap or the closing quote.  A line break hidden
by a backslash ends the word; then the gap after it has already begun. -/
def quotedWord (quote : Char) : Nat → (word : List Char) → Cursor → Option (List Char × Gap × Cursor)
  | 0, _, _ => none
  | fuel + 1, word, c =>
    match c.rest with
    | [] => some (word, .blanks [], c)
    | ch :: rest =>
      if isGap (some ch) then some (word, .blanks [], c)
      else if ch == quote then
        if quote == '\'' && rest.head? == some quote then
          quotedWord quote fuel (word ++ [quote]) (c.advance 2)
        else some (word, .blanks [], c)
      else if quote == '"' && ch == '\\' then
        if rest.head?.any isBreak then some (word, .breaks none [], c.advance 2)
        else do
          let (escaped, n) ← escape? rest
          quotedWord quote fuel (word ++ [escaped]) (c.advance (n + 1))
      else quotedWord quote fuel (word ++ [ch]) c.next

/-- The words of a quoted scalar after some text, and its closing quote. -/
def quotedWords (quote : Char) : Nat → (text : List Char) → Cursor → Option (List Char × Cursor)
  | 0, _, _ => none
  | fuel + 1, text, c =>
    if c.atDocumentMark || c.atEnd then none
    else do
      let (word, gap, c) ← quotedWord quote (c.rest.length + 1) [] c
      let text := text ++ word
      if !gap.isBroken && c.head == some quote then some (text, c.next)
      else
        let (gap, c) ← gap.extend 0 (c.rest.length + 1) c
        quotedWords quote fuel (text ++ gap.fold) c

/-- A quoted scalar, from its opening quote on. -/
def quotedScalar (quote : Char) (c : Cursor) : Option (String × Cursor) := do
  let (text, c) ← quotedWords quote (c.rest.length + 1) [] c.next
  return (String.ofList text, c)

/-! ## Block scalars -/

/-- What becomes of the line breaks at the end of a block scalar. -/
inductive Chomping where
  | strip
  | clip
  | keep
  deriving DecidableEq

/-- A sign for the chomping. -/
def chomping? : Option Char → Option Chomping
  | some '+' => some .keep
  | some '-' => some .strip
  | _ => none

/-- A digit for the indentation; zero is refused. -/
def indentation? (c : Cursor) : Option (Option Nat × Cursor) :=
  match c.head with
  | some ch =>
    if ch == '0' then none
    else if ch.isDigit then some (some (ch.toNat - 48), c.next)
    else some (none, c)
  | none => some (none, c)

/-- The header of a block scalar after its mark: chomping and indentation in either
order, and the rest of the line. -/
def blockHeader (c : Cursor) : Option (Chomping × Option Nat × Cursor) := do
  match chomping? c.head with
  | some chomping =>
    let (indent, c) ← indentation? c.next
    return (chomping, indent, ← c.endLine)
  | none =>
    let (indent, c) ← indentation? c
    match indent, chomping? c.head with
    | some n, some chomping => return (chomping, some n, ← c.next.endLine)
    | _, _ => return (.clip, indent, ← c.endLine)

/-- Whether a column is left of the indentation; every column is while the indentation
is unknown. -/
def outside (indent : Option Nat) (column : Nat) : Bool :=
  match indent with
  | none => true
  | some n => column < n

/-- Passes empty lines and the indentation of the line after them.  Given back are
the line breaks, the widest indentation seen, and the cursor. -/
def blockBreaks (indent : Option Nat) :
    Nat → (breaks : List Char) → (widest : Nat) → Cursor → Option (List Char × Nat × Cursor)
  | 0, _, _, _ => none
  | fuel + 1, breaks, widest, c =>
    if c.head == some ' ' && outside indent c.column then blockBreaks indent fuel breaks widest c.next
    else
      let widest := max widest c.column
      if c.head == some '\t' && outside indent c.column then none
      else match c.head with
        | some ch =>
          if isBreak ch then blockBreaks indent fuel (breaks ++ [ch]) widest c.next
          else some (breaks, widest, c)
        | none => some (breaks, widest, c)

/-- What a block scalar holds when its next line begins: the text, the break of the
last line, the breaks of empty lines after it, and whether the last line began with a
blank. -/
structure BlockText where
  text : List Char
  lineBreak : List Char
  emptyLines : List Char
  afterBlank : Bool

/-- The text with the breaks before a line that does or does not begin with a blank.
In a folded scalar a break between two lines that do not begin with blanks becomes a
space, or nothing where empty lines follow. -/
def BlockText.join (literal : Bool) (b : BlockText) (blank : Bool) : List Char :=
  let folds := !literal && b.lineBreak == ['\n'] && !b.afterBlank && !blank
  b.text ++ (if folds then (if b.emptyLines.isEmpty then [' '] else []) else b.lineBreak) ++
    b.emptyLines

/-- The lines of a block scalar with a known indentation. -/
def blockLines (literal : Bool) (indent : Nat) : Nat → BlockText → Cursor → Option (BlockText × Cursor)
  | 0, _, _ => none
  | fuel + 1, b, c =>
    if c.column == indent && !c.atEnd then do
      let blank := c.head.any isBlank
      let text := b.join literal blank
      let (line, c) := c.span (!isBreak ·)
      let (lineBreak, c) := match c.head with
        | some ch => ([ch], c.next)
        | none => ([], c)
      let (emptyLines, _, c) ← blockBreaks (some indent) (c.rest.length + 1) [] 0 c
      blockLines literal indent fuel ⟨text ++ line, lineBreak, emptyLines, blank⟩ c
    else some (b, c)

/-- A block scalar, from its mark on; `level` is the first column inside the block that
it stands in. -/
def blockScalar (literal : Bool) (level : Nat) (c : Cursor) : Option (String × Cursor) := do
  let (chomping, increment, c) ← blockHeader c.next
  let indent := increment.map (level - 1 + ·)
  let (emptyLines, widest, c) ← blockBreaks indent (c.rest.length + 1) [] 0 c
  let indent := indent.getD (max widest (max level 1))
  let (b, c) ← blockLines literal indent (c.rest.length + 1) ⟨[], [], emptyLines, false⟩ c
  let tail := match chomping with
    | .strip => []
    | .clip => b.lineBreak
    | .keep => b.lineBreak ++ b.emptyLines
  return (String.ofList (b.text ++ tail), c)

end StackPlaybook.Yaml
