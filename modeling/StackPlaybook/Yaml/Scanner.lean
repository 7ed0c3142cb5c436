import StackPlaybook.Yaml.Token

/-!
# StackPlaybook.Yaml.Scanner

The scanner of YAML: from characters to tokens.

A key of a record may be written without a mark in front of it, so that the colon
after it tells that it is one.  The scanner remembers where such a key may have
begun, and puts the tokens for it there when the colon comes.  The key and its colon
must stand on one line, at most 1024 characters apart.
-/

namespace StackPlaybook.Yaml

/-- A place where a key may have begun. -/
structure KeyPlace where
  /-- The number of tokens before it. -/
  position : Nat
  /-- Nothing but a key may stand there. -/
  required : Bool
  index : Nat
  line : Nat
  column : Nat

/-- A scanner between two tokens. -/
structure Scanner where
  cursor : Cursor
  /-- The first column inside the innermost block: one more than its indentation. -/
  level : Nat
  /-- The levels of the blocks around it. -/
  levels : List Nat
  /-- Whether a key without a mark may begin here. -/
  keyAllowed : Bool
  /-- Where a key may have begun in the innermost flow collection, and in those
  around it up to the block that holds them. -/
  key : Option KeyPlace
  outerKeys : List (Option KeyPlace)
  /-- The tokens so far, last first, and their number. -/
  tokens : List Token
  count : Nat

namespace Scanner

def start (cs : List Char) : Scanner := ⟨.start cs, 0, [], true, none, [], [], 0⟩

/-- Whether the scanner is inside a flow collection. -/
def flow (s : Scanner) : Bool := !s.outerKeys.isEmpty

def add (t : Token) (s : Scanner) : Scanner :=
  { s with tokens := t :: s.tokens, count := s.count + 1 }

/-- Puts a token before those from a position on. -/
def insert (position : Nat) (t : Token) (s : Scanner) : Scanner :=
  let later := s.count - position
  { s with tokens := s.tokens.take later ++ t :: s.tokens.drop later, count := s.count + 1 }

/-- Moves the cursor on. -/
def skip (n : Nat) (s : Scanner) : Scanner := { s with cursor := s.cursor.advance n }

def allowKey (allowed : Bool) (s : Scanner) : Scanner := { s with keyAllowed := allowed }

/-! ## Possible keys -/

/-- Gives up a possible key; one that is required is an error. -/
def dropKey (s : Scanner) : Option Scanner :=
  if s.key.any (·.required) then none else some { s with key := none }

/-- Takes note that a key may begin here. -/
def noteKey (s : Scanner) : Option Scanner :=
  if s.keyAllowed then do
    let c := s.cursor
    let place : KeyPlace := ⟨s.count, !s.flow && s.level == c.column + 1, c.index, c.line, c.column⟩
    let s ← s.dropKey
    return { s with key := some place }
  else some s

/-- A possible key as seen from a later place: given up once the line is left or too
many characters have passed. -/
def age (c : Cursor) : Option KeyPlace → Option (Option KeyPlace)
  | none => some none
  | some k =>
    if k.line < c.line || k.index + 1024 < c.index then (if k.required then none else some none)
    else some (some k)

/-- Gives up the possible keys that are too far away. -/
def ageKeys (s : Scanner) : Option Scanner := do
  let key ← age s.cursor s.key
  let outerKeys ← s.outerKeys.mapM (age s.cursor)
  return { s with key, outerKeys }

/-! ## Indentation -/

/-- Opens a block at a column, if that is further in than the innermost block. -/
def openBlock (column position : Nat) (t : Token) (s : Scanner) : Scanner :=
  if s.flow || column < s.level then s
  else { s.insert position t with level := column + 1, levels := s.level :: s.levels }

/-- Closes the given blocks as far as they lie further in than a level. -/
def closeBlocks (level : Nat) : List Nat → Scanner → Scanner
  | [], s => s
  | outer :: levels, s =>
    if level < s.level then closeBlocks level levels { s.add .blockEnd with level := outer, levels }
    else s

/-- Closes the blocks that lie further in than a level. -/
def close (level : Nat) (s : Scanner) : Scanner :=
  if s.flow then s else closeBlocks level s.levels s

/-! ## Between tokens -/

/-- Whether a tab may be passed: not where a key may begin in a block. -/
def passable (s : Scanner) (c : Char) : Bool :=
  c == ' ' || (c == '\t' && (s.flow || !s.keyAllowed))

/-- Passes blanks, comments and line breaks up to the next token.  A byte order mark
may stand at the very beginning. -/
def toNextToken : Nat → Scanner → Scanner
  | 0, s => s
  | fuel + 1, s =>
    let c := s.cursor
    let c := if c.index == 0 && c.head.any (fun ch => ch.toNat == 0xFEFF) then c.next else c
    let c := (c.span s.passable).2.skipComment
    if c.atBreak then
      toNextToken fuel { s with cursor := c.next, keyAllowed := s.keyAllowed || !s.flow }
    else { s with cursor := c }

/-! ## Tokens -/

/-- A token that may be a key or the beginning of one. -/
def keyPart (s : Scanner) (read : Cursor → Option (Token × Cursor)) : Option Scanner := do
  let s ← s.noteKey
  let (t, cursor) ← read s.cursor
  return { (s.add t).allowKey false with cursor }

/-- A directive or a mark between documents, which closes all blocks. -/
def betweenDocuments (s : Scanner) (read : Cursor → Option (Token × Cursor)) : Option Scanner := do
  let s ← (s.close 0).dropKey
  let (t, cursor) ← read s.cursor
  return { (s.add t).allowKey false with cursor }

/-- The opening bracket of a flow collection. -/
def openFlow (s : Scanner) (t : Token) : Option Scanner := do
  let s ← s.noteKey
  return ({ s with key := none, outerKeys := s.key :: s.outerKeys }.allowKey true).add t |>.skip 1

/-- A closing bracket. -/
def closeFlow (s : Scanner) (t : Token) : Option Scanner := do
  let s ← s.dropKey
  let s := match s.outerKeys with
    | key :: outerKeys => { s with key, outerKeys }
    | [] => s
  return ((s.allowKey false).add t).skip 1

/-- The comma of a flow collection. -/
def flowEntry (s : Scanner) : Option Scanner := do
  let s ← s.dropKey
  return ((s.allowKey true).add .flowEntry).skip 1

/-- The mark of an item or of a key, which may open a block. -/
def opening (s : Scanner) (blockStart t : Token) (allowed : Bool) : Option Scanner := do
  guard (s.flow ∨ s.keyAllowed)
  let s ← (s.openBlock s.cursor.column s.count blockStart).dropKey
  return ((s.allowKey allowed).add t).skip 1

/-- The colon before a value: what may have been a key is one. -/
def value (s : Scanner) : Option Scanner :=
  match s.key with
  | some k =>
    let s := (s.insert k.position .key).openBlock k.column k.position .blockRecordStart
    some ((({ s with key := none }.allowKey false).add .value).skip 1)
  | none =>
    if s.flow then some (((s.allowKey false).add .value).skip 1)
    else if s.keyAllowed then
      some ((((s.openBlock s.cursor.column s.count .blockRecordStart).allowKey true).add .value).skip 1)
    else none

/-- A block scalar. -/
def block (s : Scanner) (style : Style) : Option Scanner := do
  let s ← s.dropKey
  let (text, cursor) ← blockScalar (style == .literal) s.level s.cursor
  return { (s.add (.scalar style text)).allowKey true with cursor }

/-- A plain scalar; after a line break a key may begin. -/
def plain (s : Scanner) : Option Scanner := do
  let s ← s.noteKey
  let (text, broken, cursor) ← plainScalar s.flow s.level s.cursor
  return { (s.add (.scalar .plain text)).allowKey broken with cursor }

/-- Whether a plain scalar may begin with a character. -/
def beginsPlain (s : Scanner) (c : Char) (follower : Option Char) : Bool :=
  if c == '-' then !follower.any isBlank
  else if c == '?' || c == ':' then !s.flow && !isGap follower
  else !(isGap (some c) || isFlowMark c || "#&*!|>'\"%@".toList.contains c || c.toNat == 0x60)

/-- The token that begins with a character. -/
def token (s : Scanner) (ch : Char) : Option Scanner :=
  let c := s.cursor
  let lone := isGap (c.ahead 1)
  if c.column == 0 && ch == '%' then s.betweenDocuments Token.readDirective
  else if c.atMark '-' then s.betweenDocuments fun c => some (.documentStart, c.advance 3)
  else if c.atMark '.' then s.betweenDocuments fun c => some (.documentEnd, c.advance 3)
  else if ch == '[' then s.openFlow .flowListStart
  else if ch == '{' then s.openFlow .flowRecordStart
  else if ch == ']' then s.closeFlow .flowListEnd
  else if ch == '}' then s.closeFlow .flowRecordEnd
  else if ch == ',' then s.flowEntry
  else if ch == '-' && lone then s.opening .blockListStart .blockEntry true
  else if ch == '?' && (s.flow || lone) then s.opening .blockRecordStart .key (!s.flow)
  else if ch == ':' && (s.flow || lone) then s.value
  else if ch == '*' then s.keyPart fun c => (Token.readName c).map fun (n, c) => (.reference n, c)
  else if ch == '&' then s.keyPart fun c => (Token.readName c).map fun (n, c) => (.anchor n, c)
  else if ch == '!' then s.keyPart (Token.readTag s.flow)
  else if ch == '|' && !s.flow then s.block .literal
  else if ch == '>' && !s.flow then s.block .folded
  else if ch == '\'' || ch == '"' then
    s.keyPart fun c => (quotedScalar ch c).map fun (t, c) => (.scalar .quoted t, c)
  else if s.beginsPlain ch (c.ahead 1) then s.plain
  else none

/-- The end of the text, which closes all blocks. -/
def finish (s : Scanner) : Option (List Token) := do
  let s ← (s.close 0).dropKey
  return s.tokens.reverse

/-- Scans to the end. -/
def run : Nat → Scanner → Option (List Token)
  | 0, _ => none
  | fuel + 1, s => do
    let s ← (s.toNextToken (s.cursor.rest.length + 1)).ageKeys
    let s := s.close (s.cursor.column + 1)
    match s.cursor.head with
    | none => s.finish
    | some ch => run fuel (← s.token ch)

end Scanner

/-- The tokens of a text. -/
def scan (text : String) : Option (List Token) :=
  let cs := text.toList
  if cs.all isAllowed then Scanner.run (cs.length + 1) (.start (uniform cs)) else none

end StackPlaybook.Yaml
