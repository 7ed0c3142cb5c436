import StackPlaybook.Yaml.Node
import StackPlaybook.Yaml.Scanner

/-!
# StackPlaybook.Yaml.Parser

The parser of YAML: from tokens to the one node of a document.
-/

namespace StackPlaybook.Yaml

/-- What the parser knows besides the tokens ahead. -/
structure Parser where
  tokens : List Token
  /-- What the handles of tags abbreviate. -/
  handles : List (String × String)
  /-- The numbers of the anchors so far.  A new anchor gets the number of names known,
  whether or not its own name is among them. -/
  anchors : List (String × Nat)

/-- A step of parsing. -/
abbrev Parse := StateT Parser Option

namespace Parse

/-! ## Tokens -/

def peek : Parse (Option Token) := do return (← get).tokens.head?

def skip : Parse Unit := modify fun p => { p with tokens := p.tokens.tail }

/-- Whether the next token is one of some. -/
def sees (ts : List Token) : Parse Bool := do return (← peek).any ts.contains

/-- Passes a token if it comes next. -/
def accept (t : Token) : Parse Bool := do
  if ← sees [t] then
    skip
    return true
  else return false

/-! ## Properties -/

/-- The number of a new anchor. -/
def register (name : String) : Parse Nat := do
  let p ← get
  let n := p.anchors.length
  set { p with anchors := (name, n) :: p.anchors.filter (·.1 != name) }
  return n

/-- The tag in full. -/
def expandTag (handle suffix : String) : Parse String := do
  if handle = "" then return suffix
  match (← get).handles.lookup handle with
  | some lead => return lead ++ suffix
  | none => failure

/-- Reads an anchor if one comes next. -/
def anchorName? : Parse (Option String) := do
  match ← peek with
  | some (.anchor name) => skip; return some name
  | _ => return none

/-- Reads a tag if one comes next. -/
def tag? : Parse (Option String) := do
  match ← peek with
  | some (.tag handle suffix) => skip; return some (← expandTag handle suffix)
  | _ => return none

/-- Reads an anchor and a tag, in either order. -/
def props : Parse Props := do
  let name ← anchorName?
  let tag ← tag?
  let name ← if name.isNone && tag.isSome then anchorName? else pure name
  match name with
  | some name => return ⟨some (← register name), tag⟩
  | none => return ⟨none, tag⟩

/-- The properties of a scalar: the tag `!` stands for none. -/
def scalarProps (p : Props) : Props := if p.tag = some "!" then { p with tag := none } else p

/-! ## Nodes -/

/-- A node of which only properties are written. -/
def missing (p : Props) : Parse Node :=
  if p.anchor.isSome || p.tag.isSome then return .empty p else failure

/-- Tokens after which a node in a block is not written. -/
def endsBlockNode : List Token := [.key, .value, .blockEnd]

mutual

/-- A node, in a block or in a flow collection.  A list that is the value or key of a
block need not be indented; it has no token at its start then. -/
def node (block indentless : Bool) : Nat → Parse Node
  | 0 => failure
  | fuel + 1 => do
    if let some (.reference name) ← peek then
      skip
      match (← get).anchors.lookup name with
      | some n => return .reference n
      | none => failure
    let p ← props
    match ← peek with
    | some .blockEntry =>
      if indentless then return .list p (← indentlessItems fuel) else missing p
    | some (.scalar style text) => skip; return .scalar (scalarProps p) style text
    | some .flowListStart => skip; return .list p (← flowItems true fuel)
    | some .flowRecordStart => skip; return .record p (← flowEntries true fuel)
    | some .blockListStart => if block then skip; return .list p (← blockItems fuel) else missing p
    | some .blockRecordStart =>
      if block then skip; return .record p (← blockEntries fuel) else missing p
    | _ => missing p

/-- A node that is not written if one of some tokens comes next. -/
def nodeUnless (ends : List Token) (block indentless : Bool) : Nat → Parse Node
  | 0 => failure
  | fuel + 1 => do
    if ← sees ends then return .empty .none else node block indentless fuel

/-- The items of a list in a block, and its end. -/
def blockItems : Nat → Parse (List Node)
  | 0 => failure
  | fuel + 1 => do
    if ← accept .blockEntry then
      let item ← nodeUnless [.blockEntry, .blockEnd] true false fuel
      return item :: (← blockItems fuel)
    else if ← accept .blockEnd then return []
    else failure

/-- The items of a list that is not indented. -/
def indentlessItems : Nat → Parse (List Node)
  | 0 => failure
  | fuel + 1 => do
    if ← accept .blockEntry then
      let item ← nodeUnless (.blockEntry :: endsBlockNode) true false fuel
      return item :: (← indentlessItems fuel)
    else return []

/-- The entries of a record in a block, and its end. -/
def blockEntries : Nat → Parse (List (Node × Node))
  | 0 => failure
  | fuel + 1 => do
    if ← accept .key then
      let key ← nodeUnless endsBlockNode true true fuel
      let value ← if ← accept .value then nodeUnless endsBlockNode true true fuel
        else pure (.empty .none)
      return (key, value) :: (← blockEntries fuel)
    else if ← accept .blockEnd then return []
    else failure

/-- The items of a flow list, and its end.  An item with a key is a record of one
entry. -/
def flowItems (first : Bool) : Nat → Parse (List Node)
  | 0 => failure
  | fuel + 1 => do
    if ← accept .flowListEnd then return []
    if !first then
      if !(← accept .flowEntry) then failure
    if ← accept .flowListEnd then return []
    let item ← if ← accept .key then do
        pure (Node.record .none [← flowPair fuel])
      else node false false fuel
    return item :: (← flowItems false fuel)

/-- The key and value of an item of a flow list.  Where the key is not written, the
token after it is passed over. -/
def flowPair : Nat → Parse (Node × Node)
  | 0 => failure
  | fuel + 1 => do
    let key ← if ← sees [.value, .flowEntry, .flowListEnd] then do
        skip
        pure (Node.empty .none)
      else node false false fuel
    let value ← if ← accept .value then
        nodeUnless [.flowEntry, .flowListEnd] false false fuel
      else pure (.empty .none)
    return (key, value)

/-- The entries of a flow record, and its end.  An entry without a key mark and colon
has an empty value. -/
def flowEntries (first : Bool) : Nat → Parse (List (Node × Node))
  | 0 => failure
  | fuel + 1 => do
    if ← accept .flowRecordEnd then return []
    if !first then
      if !(← accept .flowEntry) then failure
    if ← accept .flowRecordEnd then return []
    let entry ← if ← accept .key then do
        let key ← nodeUnless [.value, .flowEntry, .flowRecordEnd] false false fuel
        let value ← if ← accept .value then
            nodeUnless [.flowEntry, .flowRecordEnd] false false fuel
          else pure (.empty .none)
        pure (key, value)
      else do
        pure (← node false false fuel, Node.empty .none)
    return entry :: (← flowEntries false fuel)

end

/-! ## Documents -/

/-- The handles known without directives. -/
def defaultHandles : List (String × String) := [("!", "!"), ("!!", "tag:yaml.org,2002:")]

/-- Reads the directives before a document: at most one version, 1.1 or 1.2, and no
handle twice.  Given back is whether there were any. -/
def directives : Nat → (version : Bool) → (own : List (String × String)) → Parse Bool
  | 0, _, _ => failure
  | fuel + 1, version, own => do
    match ← peek with
    | some (.version major minor) =>
      guard (!version ∧ major = 1 ∧ (minor = 1 ∨ minor = 2))
      skip
      directives fuel true own
    | some (.abbreviation handle lead) =>
      guard (own.lookup handle).isNone
      skip
      directives fuel version ((handle, lead) :: own)
    | _ =>
      modify fun p => { p with handles := own ++ defaultHandles }
      return version || !own.isEmpty

/-- Passes the marks for the end of a document. -/
def documentEnds : Nat → Parse Unit
  | 0 => failure
  | fuel + 1 => do
    if ← accept .documentEnd then documentEnds fuel

/-- The one document of a text; an empty text counts as a node that is not written. -/
def document (fuel : Nat) : Parse Node := do
  if (← peek).isNone then return .empty .none
  let directed ← directives fuel false []
  let marked ← accept .documentStart
  guard (marked ∨ !directed)
  let next ← peek
  let root ← if marked && (next.isNone || next == some .documentStart || next == some .documentEnd)
    then pure (Node.empty .none)
    else node true false fuel
  documentEnds fuel
  guard (← peek).isNone
  return root

end Parse

/-- The node of a text that holds one document. -/
def parse? (text : String) : Option Node := do
  let tokens ← scan text
  let (root, _) ← (Parse.document (4 * tokens.length + 4)).run ⟨tokens, [], []⟩
  return root

end StackPlaybook.Yaml
