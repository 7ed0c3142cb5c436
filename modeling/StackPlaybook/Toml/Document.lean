import StackPlaybook.Toml.Scalar
import StackPlaybook.Toml.Text

/-!
# StackPlaybook.Toml.Document

TOML documents.  A document is a table; headers open the tables that the assignments
after them belong to.  A table may be opened once, and a key be set once; a table
that was only passed through on the way to another may still be opened.
-/

namespace StackPlaybook.Toml

/-! ## Values -/

/-- How a table came about, which decides what may still be added to it. -/
inductive Origin where
  /-- Opened by a header, or written with braces. -/
  | opened
  /-- Passed through by a header. -/
  | passed
  /-- Made by a dotted key. -/
  | dotted
  deriving DecidableEq, Repr

/-- A value of a document. -/
inductive Value where
  | text (s : String)
  | scalar (s : Scalar)
  | list (items : List Value)
  /-- A table written with braces or made by dotted keys inside one. -/
  | inlineTable (origin : Origin) (entries : List (String × Value))
  /-- A table made by headers and assignments. -/
  | table (origin : Origin) (entries : List (String × Value))
  /-- The tables of a repeated header, last first. -/
  | tables (items : List (List (String × Value)))
  deriving Inhabited

abbrev Entries := List (String × Value)

namespace Value

/-- The entries with one of them set, in its place or at the end. -/
def setEntry (key : String) (v : Value) : Entries → Entries
  | [] => [(key, v)]
  | e :: es => if e.1 = key then (key, v) :: es else e :: setEntry key v es

end Value

/-! ## Setting keys -/

/-- Sets a dotted key in the entries of a table.  A key of several parts may only add
to tables that dotted keys made. -/
def assign (inBraces : Bool) (v : Value) : List String → Entries → Option Entries
  | [], _ => none
  | [key], entries => if (entries.lookup key).isSome then none else some (entries ++ [(key, v)])
  | key :: keys, entries => do
    let child ← match entries.lookup key with
      | none => some []
      | some (.inlineTable .dotted es) => if inBraces then some es else none
      | some (.table .dotted es) => if inBraces then none else some es
      | some _ => none
    let child ← assign inBraces v keys child
    let made := if inBraces then Value.inlineTable .dotted child else .table .dotted child
    return Value.setEntry key made entries

/-! ## Tables by headers -/

/-- Changes the table at a path, through tables that are made where they are missing;
of repeated tables the last is meant. -/
def descend (change : Entries → Option Entries) : List String → Entries → Option Entries
  | [], entries => change entries
  | key :: keys, entries =>
    match entries.lookup key with
    | none => (descend change keys []).map fun child =>
        Value.setEntry key (.table .passed child) entries
    | some (.table origin child) => (descend change keys child).map fun child =>
        Value.setEntry key (.table origin child) entries
    | some (.tables (last :: others)) => (descend change keys last).map fun last =>
        Value.setEntry key (.tables (last :: others)) entries
    | some _ => none

/-- Opens the table at a path. -/
def openTable (path : List String) (root : Entries) : Option Entries :=
  match path.getLast? with
  | none => none
  | some key =>
    descend (fun entries =>
      match entries.lookup key with
      | none => some (entries ++ [(key, .table .opened [])])
      | some (.table .passed child) => some (Value.setEntry key (.table .opened child) entries)
      | some _ => none) path.dropLast root

/-- Opens one more table of the repeated header at a path. -/
def openRepeated (path : List String) (root : Entries) : Option Entries :=
  match path.getLast? with
  | none => none
  | some key =>
    descend (fun entries =>
      match entries.lookup key with
      | none => some (entries ++ [(key, .tables [[]])])
      | some (.tables items) => some (Value.setEntry key (.tables ([] :: items)) entries)
      | some _ => none) path.dropLast root

/-! ## Reading -/

/-- The text after blanks. -/
def skipBlanks (cs : List Char) : List Char := cs.dropWhile fun c => c == ' ' || c == '\t'

/-- A comment, if there is one, without the end of its line. -/
def skipComment : List Char → List Char
  | '#' :: cs => cs.dropWhile isPlain
  | cs => cs

/-- The end of a line: blanks, a comment, and a line break or the end of the text. -/
def endLine (cs : List Char) : Option (List Char) :=
  match skipComment (skipBlanks cs) with
  | [] => some []
  | cs => readBreak cs

/-- Blanks, comments and line breaks inside a list. -/
def skipLines : Nat → List Char → List Char
  | 0, cs => cs
  | fuel + 1, cs =>
    let cs := skipBlanks cs
    match readBreak (skipComment cs) with
    | some rest => skipLines fuel rest
    | none => cs

def isKeyChar (c : Char) : Bool := c.isAlphanum || c == '_' || c == '-'

/-- One part of a key. -/
def readKeyPart (cs : List Char) : Option (String × List Char) :=
  match cs.takeWhile isKeyChar with
  | [] => Text.readShort cs
  | word => some (String.ofList word, cs.drop word.length)

/-- A key: parts joined by dots, with blanks around each. -/
def readKey : Nat → List Char → Option (List String × List Char)
  | 0, _ => none
  | fuel + 1, cs => do
    let (part, cs) ← readKeyPart (skipBlanks cs)
    match skipBlanks cs with
    | '.' :: rest =>
      let (parts, rest) ← readKey fuel rest
      return (part :: parts, rest)
    | rest => return ([part], rest)

/-- Characters that end a word. -/
def endsWord (c : Char) : Bool :=
  c == ',' || c == ']' || c == '}' || c == '#' || c == ' ' || c == '\t' || c == '\n' || c == '\r'

/-- A value written as one word; a date may be followed by a blank and a time. -/
def readScalar (cs : List Char) : Option (Scalar × List Char) := do
  let word := cs.takeWhile fun c => !endsWord c
  let rest := cs.drop word.length
  let later := (rest.drop 1).takeWhile fun c => !endsWord c
  if (Scalar.readDate word == some []) && rest.head? == some ' ' && later.head?.any Char.isDigit then
    guard (Scalar.isDate (word ++ ' ' :: later))
    return (.date, rest.drop (later.length + 1))
  else
    return (← Scalar.ofWord? word, rest)

/-- The levels of lists and braces that a value may have. -/
def maxDepth : Nat := 79

mutual

/-- A value, with `depth` further levels allowed. -/
def readValue : (fuel depth : Nat) → List Char → Option (Value × List Char)
  | 0, _, _ => none
  | fuel + 1, depth, cs =>
    match cs with
    | '"' :: _ | '\'' :: _ => (Text.read cs).map fun (s, rest) => (.text s, rest)
    | '[' :: rest =>
      if depth = 0 then none
      else (readItems fuel (depth - 1) rest).map fun (items, rest) => (.list items, rest)
    | '{' :: rest =>
      if depth = 0 then none
      else match skipBlanks rest with
        | '}' :: rest => some (.inlineTable .opened [], rest)
        | rest => (readPairs fuel (depth - 1) [] rest).map fun (entries, rest) =>
            (.inlineTable .opened entries, rest)
    | _ => (readScalar cs).map fun (s, rest) => (.scalar s, rest)

/-- The items of a list and its closing bracket. -/
def readItems : (fuel depth : Nat) → List Char → Option (List Value × List Char)
  | 0, _, _ => none
  | fuel + 1, depth, cs =>
    match skipLines cs.length cs with
    | ']' :: rest => some ([], rest)
    | cs => do
      let (v, cs) ← readValue fuel depth cs
      match skipLines cs.length cs with
      | ',' :: rest =>
        let (vs, rest) ← readItems fuel depth rest
        return (v :: vs, rest)
      | ']' :: rest => return ([v], rest)
      | _ => none

/-- The entries of a table in braces, all on one line, and the closing brace. -/
def readPairs : (fuel depth : Nat) → Entries → List Char → Option (Entries × List Char)
  | 0, _, _, _ => none
  | fuel + 1, depth, entries, cs => do
    let (key, cs) ← readKey cs.length cs
    match cs with
    | '=' :: cs =>
      let (v, cs) ← readValue fuel depth (skipBlanks cs)
      let entries ← assign true v key entries
      match skipBlanks cs with
      | ',' :: rest => readPairs fuel depth entries rest
      | '}' :: rest => return (entries, rest)
      | _ => none
    | _ => none

end

/-- An assignment. -/
def readAssignment (cs : List Char) : Option ((List String × Value) × List Char) := do
  let (key, cs) ← readKey cs.length cs
  match cs with
  | '=' :: cs =>
    let cs := skipBlanks cs
    let (v, cs) ← readValue (cs.length + 1) maxDepth cs
    return ((key, v), cs)
  | _ => none

/-- The lines of a document from one on, with the table that assignments belong to and
all that was read before. -/
def readLines : Nat → (path : List String) → Entries → List Char → Option Entries
  | 0, _, _, _ => none
  | fuel + 1, path, root, cs =>
    match skipBlanks cs with
    | [] => some root
    | '[' :: '[' :: cs => do
      let (key, cs) ← readKey cs.length cs
      match cs with
      | ']' :: ']' :: cs =>
        let root ← openRepeated key root
        readLines fuel key root (← endLine cs)
      | _ => none
    | '[' :: cs => do
      let (key, cs) ← readKey cs.length cs
      match cs with
      | ']' :: cs =>
        let root ← openTable key root
        readLines fuel key root (← endLine cs)
      | _ => none
    | cs =>
      match endLine cs with
      | some rest => readLines fuel path root rest
      | none => do
        let ((key, v), cs) ← readAssignment cs
        let root ← descend (assign false v key) path root
        readLines fuel path root (← endLine cs)

/-- The entries of a document, which may begin with a byte order mark. -/
def parse? (text : String) : Option Entries :=
  let cs := match text.toList with
    | c :: cs => if c.toNat = 0xFEFF then cs else c :: cs
    | [] => []
  readLines (cs.length + 2) [] [] cs

end StackPlaybook.Toml
