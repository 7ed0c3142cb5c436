import StackPlaybook.Yaml.Scalar

/-!
# StackPlaybook.Yaml.Token

The tokens of YAML that are written as one piece: directives, anchors, tags and
scalars.  Block collections, which are marked by indentation alone, have tokens for
their start and end as well.
-/

namespace StackPlaybook.Yaml

/-- How a scalar is written. -/
inductive Style where
  | plain
  | quoted
  | literal
  | folded
  deriving DecidableEq, Repr

inductive Token where
  | version (major minor : Nat)
  /-- A handle, and what it abbreviates. -/
  | abbreviation (handle lead : String)
  | documentStart
  | documentEnd
  | blockListStart
  | blockRecordStart
  | blockEnd
  | flowListStart
  | flowListEnd
  | flowRecordStart
  | flowRecordEnd
  | blockEntry
  | flowEntry
  | key
  | value
  | reference (name : String)
  | anchor (name : String)
  | tag (handle suffix : String)
  | scalar (style : Style) (text : String)
  deriving DecidableEq, Repr

namespace Token

/-! ## Anchors -/

/-- Whether a name of an anchor may end before a character. -/
def endsName (c : Option Char) : Bool :=
  isGap c || c.any fun c => "?:,]\x7d%@".toList.contains c || c.toNat == 0x60

/-- The name after `&` or `*`. -/
def readName (c : Cursor) : Option (String × Cursor) :=
  let (name, c) := c.next.span isWord
  if !name.isEmpty && endsName c.head then some (String.ofList name, c) else none

/-! ## Tags -/

/-- Characters that may be written in a tag; a verbatim one may hold more. -/
def isUriChar (verbatim : Bool) (c : Char) : Bool :=
  isWord c || ";/?:@&=+$.!~*'()%".toList.contains c || (verbatim && ",[]".toList.contains c)

/-- The bytes that a text with percent signs stands for. -/
def percentBytes : List Char → Option Bytes
  | [] => some []
  | '%' :: high :: low :: cs => do
    let high ← Bytes.hexDigit? high
    let low ← Bytes.hexDigit? low
    return UInt8.ofNat (high * 16 + low) :: (← percentBytes cs)
  | '%' :: _ => none
  | c :: cs => (percentBytes cs).map (Bytes.ofString (String.ofList [c]) ++ ·)

/-- The characters of a tag, percent signs taken into account. -/
def readUri (verbatim : Bool) (c : Cursor) : Option (String × Cursor) := do
  let (taken, c) := c.span (isUriChar verbatim)
  return (← (← percentBytes taken).decode?, c)

/-- A handle: `!`, or word characters between two of them. -/
def readHandle (c : Cursor) : Option (List Char × Cursor) :=
  if c.head != some '!' then none
  else
    let (word, c) := c.next.span isWord
    if c.head == some '!' then some ('!' :: word ++ ['!'], c.next) else some ('!' :: word, c)

/-- Whether a handle is complete, so that a suffix follows it. -/
def isHandle (cs : List Char) : Bool := 1 < cs.length && cs.getLast? == some '!'

/-- A tag in angle brackets. -/
def readVerbatimTag (c : Cursor) : Option (Token × Cursor) := do
  let (uri, c) ← readUri true (c.advance 2)
  guard (uri ≠ "" ∧ c.head = some '>')
  return (.tag "" uri, c.next)

/-- A tag with or without a handle.  The lone `!` has no handle. -/
def readShortTag (c : Cursor) : Option (Token × Cursor) := do
  let (handle, c) ← readHandle c
  let (suffix, c) ← readUri false c
  if isHandle handle then
    guard (suffix ≠ "")
    return (.tag (String.ofList handle) suffix, c)
  else
    let suffix := String.ofList (handle.drop 1) ++ suffix
    return (if suffix = "" then .tag "" "!" else .tag "!" suffix, c)

/-- A tag, which ends at a gap or, in a flow collection, at a comma. -/
def readTag (flow : Bool) (c : Cursor) : Option (Token × Cursor) := do
  let (token, c) ← if c.ahead 1 = some '<' then readVerbatimTag c else readShortTag c
  guard (c.atGap ∨ (flow ∧ c.head = some ','))
  return (token, c)

/-! ## Directives -/

/-- A number of at most nine digits. -/
def readNumber (c : Cursor) : Option (Nat × Cursor) := do
  let (digits, c) := c.span Char.isDigit
  guard (digits ≠ [] ∧ digits.length ≤ 9)
  return (digits.foldl (fun n d => n * 10 + (d.toNat - 48)) 0, c)

def readVersion (c : Cursor) : Option (Token × Cursor) := do
  let (major, c) ← readNumber c.skipBlanks
  guard (c.head = some '.')
  let (minor, c) ← readNumber c.next
  return (.version major minor, c)

def readAbbreviation (c : Cursor) : Option (Token × Cursor) := do
  let (handle, c) ← readHandle c.skipBlanks
  guard (handle = ['!'] ∨ isHandle handle)
  guard (c.head.any isBlank)
  let (lead, c) ← readUri true c.skipBlanks
  guard (lead ≠ "" ∧ c.atGap)
  return (.abbreviation (String.ofList handle) lead, c)

/-- A directive with its line. -/
def readDirective (c : Cursor) : Option (Token × Cursor) := do
  let (name, c) := c.next.span isWord
  guard c.atGap
  let (token, c) ← match String.ofList name with
    | "YAML" => readVersion c
    | "TAG" => readAbbreviation c
    | _ => none
  return (token, ← c.endLine)

end Token

end StackPlaybook.Yaml
