import StackPlaybook.Text.Utf8

/-!
# StackPlaybook.Rehearsal.Shell.Script

Shell scripts: their words and commands, and how they are read from text.
-/

namespace StackPlaybook.Rehearsal.Shell

/-! ## Words and tokens -/

/-- A part of a word.  A quoted part is neither split nor taken as a pattern. -/
inductive Part where
  | text (cs : List Char) (quoted : Bool)
  | parameter (name : String) (quoted : Bool)
  /-- The output of a script. -/
  | output (script : List Char) (quoted : Bool)
  deriving Repr, DecidableEq

abbrev Word := List Part

inductive Token where
  | word (w : Word)
  /-- A separator or a control operator. -/
  | op (name : String)
  /-- A redirection operator for a file descriptor. -/
  | redirect (fd : Nat) (name : String)
  deriving Repr, DecidableEq

/-- A token with the number of its line. -/
structure Placed where
  line : Nat
  token : Token

/-- The grave accent, which also encloses a script. -/
def grave : Char := Char.ofNat 96

def isNameStart (c : Char) : Bool := c.isAlpha || c == '_'

def isNameChar (c : Char) : Bool := c.isAlphanum || c == '_'

/-- Characters that end a word. -/
def isMeta (c : Char) : Bool :=
  c == ' ' || c == '\t' || c == '\n' || c == ';' || c == '&' || c == '|' || c == '<' ||
  c == '>' || c == '(' || c == ')'

/-- The text up to the parenthesis that closes the one before it, and what follows. -/
def takeScript : Nat → Nat → List Char → List Char → Option (List Char × List Char)
  | 0, _, _, _ => none
  | _ + 1, _, _, [] => none
  | fuel + 1, depth, seen, c :: cs =>
    if c = ')' then
      if depth = 0 then some (seen.reverse, cs) else takeScript fuel (depth - 1) (c :: seen) cs
    else if c = '(' then takeScript fuel (depth + 1) (c :: seen) cs
    else if c = '\'' ∨ c = '"' then
      match cs.dropWhile (· != c) with
      | [] => none
      | _ :: rest => takeScript fuel depth (c :: (cs.takeWhile (· != c)).reverse ++ c :: seen) rest
    else takeScript fuel depth (c :: seen) cs

/-- What follows a dollar sign. -/
def readDollar (quoted : Bool) : List Char → Option (Part × List Char)
  | '(' :: cs =>
    (takeScript (cs.length + 1) 0 [] cs).map fun (script, rest) => (.output script quoted, rest)
  | '{' :: cs =>
    match cs.dropWhile (· != '}') with
    | [] => none
    | _ :: rest => some (.parameter (String.ofList (cs.takeWhile (· != '}'))) quoted, rest)
  | c :: cs =>
    if isNameStart c then
      some (.parameter (String.ofList (c :: cs.takeWhile isNameChar)) quoted,
        cs.dropWhile isNameChar)
    else if c.isDigit ∨ ['@', '*', '#', '?', '$', '!', '-'].contains c then
      some (.parameter (String.ofList [c]) quoted, cs)
    else some (.text ['$'] quoted, c :: cs)
  | [] => some (.text ['$'] quoted, [])

/-- The parts inside double quotes, and what follows the closing one. -/
def readQuoted : Nat → List Part → List Char → Option (List Part × List Char)
  | 0, _, _ => none
  | _ + 1, _, [] => none
  | fuel + 1, done, c :: cs =>
    if c = '"' then some (done.reverse, cs)
    else if c = '$' then do
      let (p, rest) ← readDollar true cs
      readQuoted fuel (p :: done) rest
    else if c = grave then
      match cs.dropWhile (· != grave) with
      | [] => none
      | _ :: rest => readQuoted fuel (.output (cs.takeWhile (· != grave)) true :: done) rest
    else if c = '\\' then
      match cs with
      | '\n' :: rest => readQuoted fuel done rest
      | e :: rest =>
        if ['$', grave, '"', '\\'].contains e then readQuoted fuel (.text [e] true :: done) rest
        else readQuoted fuel (.text ['\\', e] true :: done) rest
      | [] => none
    else readQuoted fuel (.text [c] true :: done) cs

/-- The parts of a word, and what follows it. -/
def readWord : Nat → List Part → List Char → Option (Word × List Char)
  | 0, _, _ => none
  | _ + 1, done, [] => some (done.reverse, [])
  | fuel + 1, done, c :: cs =>
    if isMeta c then some (done.reverse, c :: cs)
    else if c = '\'' then
      match cs.dropWhile (· != '\'') with
      | [] => none
      | _ :: rest => readWord fuel (.text (cs.takeWhile (· != '\'')) true :: done) rest
    else if c = '"' then do
      let (parts, rest) ← readQuoted (cs.length + 1) [] cs
      readWord fuel ((if parts.isEmpty then [.text [] true] else parts).reverse ++ done) rest
    else if c = '$' then do
      let (p, rest) ← readDollar false cs
      readWord fuel (p :: done) rest
    else if c = grave then
      match cs.dropWhile (· != grave) with
      | [] => none
      | _ :: rest => readWord fuel (.output (cs.takeWhile (· != grave)) false :: done) rest
    else if c = '\\' then
      match cs with
      | '\n' :: rest => readWord fuel done rest
      | e :: rest => readWord fuel (.text [e] true :: done) rest
      | [] => readWord fuel (.text ['\\'] true :: done) []
    else readWord fuel (.text [c] false :: done) cs

/-- A redirection operator, with the file descriptor that it is for by default. -/
def readRedirect : List Char → Option (Nat × String × List Char)
  | '>' :: '>' :: cs => some (1, ">>", cs)
  | '>' :: '&' :: cs => some (1, ">&", cs)
  | '>' :: '|' :: cs => some (1, ">", cs)
  | '>' :: cs => some (1, ">", cs)
  | '<' :: '&' :: cs => some (0, "<&", cs)
  | '<' :: cs => some (0, "<", cs)
  | _ => none

/-- A control operator. -/
def readOp : List Char → Option (String × List Char)
  | '&' :: '&' :: cs => some ("&&", cs)
  | '|' :: '|' :: cs => some ("||", cs)
  | ';' :: ';' :: cs => some (";;", cs)
  | '&' :: cs => some ("&", cs)
  | '|' :: cs => some ("|", cs)
  | ';' :: cs => some (";", cs)
  | '(' :: cs => some ("(", cs)
  | ')' :: cs => some (")", cs)
  | _ => none

/-- The tokens of a script, or none where a quote is not closed. -/
def tokens : Nat → Nat → List Char → Option (List Placed)
  | 0, _, _ => none
  | _ + 1, _, [] => some []
  | fuel + 1, line, c :: cs =>
    if c = ' ' ∨ c = '\t' then tokens fuel line cs
    else if c = '\n' then (tokens fuel (line + 1) cs).map (⟨line, .op "\n"⟩ :: ·)
    else if c = '#' then tokens fuel line (cs.dropWhile (· != '\n'))
    else if c = '\\' ∧ cs.head? = some '\n' then tokens fuel (line + 1) (cs.drop 1)
    else if let some (fd, name, rest) := readRedirect (c :: cs) then
      (tokens fuel line rest).map (⟨line, .redirect fd name⟩ :: ·)
    else if let some (name, rest) := readOp (c :: cs) then
      (tokens fuel line rest).map (⟨line, .op name⟩ :: ·)
    else
      let digitFirst := if c.isDigit then readRedirect cs else none
      match digitFirst with
      | some (_, name, rest) =>
        (tokens fuel line rest).map (⟨line, .redirect (c.toNat - 48) name⟩ :: ·)
      | none => do
        let (w, rest) ← readWord (cs.length + 2) [] (c :: cs)
        let breaks := ((c :: cs).take (cs.length + 1 - rest.length)).count '\n'
        (tokens fuel (line + breaks) rest).map (⟨line, .word w⟩ :: ·)

/-! ## Commands -/

/-- A redirection of a file descriptor to or from what a word names. -/
structure Redirection where
  fd : Nat
  op : String
  target : Word
  deriving Repr

inductive Command where
  /-- Assignments, the words of a call and its redirections, on a line. -/
  | simple (line : Nat) (assigns : List (String × Word)) (words : List Word)
      (redirections : List Redirection)
  | pipe (left right : Command)
  | not (body : Command)
  | both (left right : Command)
  | either (left right : Command)
  | seq (first second : Command)
  | skip
  | subshell (body : Command) (redirections : List Redirection)
  | group (body : Command) (redirections : List Redirection)
  | branch (test yes no : Command)
  | loop (while_ : Bool) (test body : Command)
  | each (name : String) (words : List Word) (body : Command)
  | cases (subject : Word) (arms : List (List Word × Command))
  deriving Inhabited

/-- The characters of a part that is written out without quotes. -/
def Part.bare? : Part → Option (List Char)
  | .text cs false => some cs
  | _ => none

/-- The text of a word without quotes and substitutions. -/
def plain? (w : Word) : Option String :=
  (List.mapM Part.bare? w).map fun parts => String.ofList parts.flatten

/-- Whether the first token is the given reserved word. -/
def isReserved (name : String) : List Placed → Bool
  | ⟨_, .word w⟩ :: _ => plain? w == some name
  | _ => false

def isOp (name : String) : List Placed → Bool
  | ⟨_, .op n⟩ :: _ => n == name
  | _ => false

def skipNewlines (ts : List Placed) : List Placed :=
  ts.dropWhile fun t => t.token == .op "\n"

/-- Reads past a reserved word. -/
def expect (name : String) (ts : List Placed) : Option (List Placed) :=
  if isReserved name ts then some (ts.drop 1) else none

/-- A word of the form `name=value`. -/
def assignment? : Word → Option (String × Word)
  | parts =>
    let lead := parts.takeWhile fun (p : Part) =>
      match p with
      | .text [c] false => c != '='
      | _ => false
    match plain? lead, parts.drop lead.length with
    | some name, .text ['='] false :: value =>
      match name.toList with
      | c :: cs => if isNameStart c && cs.all isNameChar then some (name, value) else none
      | [] => none
    | _, _ => none

/-- The redirections at the front. -/
def readRedirections : Nat → List Placed → List Redirection × List Placed
  | fuel + 1, ⟨_, .redirect fd op⟩ :: ⟨_, .word w⟩ :: ts =>
    let (rs, rest) := readRedirections fuel ts
    (⟨fd, op, w⟩ :: rs, rest)
  | _, ts => ([], ts)

/-- The words, assignments and redirections of a simple command. -/
def readSimple : Nat → List Placed →
    List (String × Word) × List Word × List Redirection × List Placed
  | fuel + 1, ⟨_, .redirect fd op⟩ :: ⟨_, .word w⟩ :: ts =>
    let (assigns, words, rs, rest) := readSimple fuel ts
    (assigns, words, ⟨fd, op, w⟩ :: rs, rest)
  | fuel + 1, ⟨_, .word w⟩ :: ts =>
    let (assigns, words, rs, rest) := readSimple fuel ts
    (assigns, w :: words, rs, rest)
  | _, ts => ([], [], [], ts)

/-- Splits the assignments off the front of the words of a command. -/
def splitAssigns : List Word → List (String × Word) × List Word
  | [] => ([], [])
  | w :: ws =>
    match assignment? w with
    | some a =>
      let (assigns, words) := splitAssigns ws
      (a :: assigns, words)
    | none => ([], w :: ws)

/-- Reserved words that end a list of commands. -/
def closers : List String := ["then", "else", "elif", "fi", "do", "done", "esac", "\x7d"]

/-- The words up to the end of a line, as after `in`. -/
def readWords : Nat → List Placed → List Word × List Placed
  | fuel + 1, ⟨_, .word w⟩ :: ts =>
    let (ws, rest) := readWords fuel ts
    (w :: ws, rest)
  | _, ts => ([], ts)

/-- The patterns of an arm, up to its parenthesis. -/
def readPatterns : Nat → List Placed → Option (List Word × List Placed)
  | fuel + 1, ⟨_, .word w⟩ :: ⟨_, .op op⟩ :: ts =>
    if op = ")" then some ([w], ts)
    else if op = "|" then (readPatterns fuel ts).map fun (ws, rest) => (w :: ws, rest)
    else none
  | _, _ => none

mutual

/-- Commands up to the end of the script or a closing word. -/
def readList : Nat → List Placed → Option (Command × List Placed)
  | 0, _ => none
  | fuel + 1, ts =>
    let ts := ts.dropWhile fun t => t.token == .op "\n"
    if ts.isEmpty || closers.any (isReserved · ts) || isOp ")" ts || isOp ";;" ts then
      some (.skip, ts)
    else do
      let (first, ts) ← readAndOr fuel ts
      if isOp ";" ts || isOp "\n" ts || isOp "&" ts then
        let (rest, ts) ← readList fuel (ts.drop 1)
        return (.seq first rest, ts)
      else return (first, ts)

/-- Pipelines joined by `&&` and `||`. -/
def readAndOr : Nat → List Placed → Option (Command × List Placed)
  | 0, _ => none
  | fuel + 1, ts => do
    let (first, ts) ← readPipeline fuel ts
    readAndOrRest fuel first ts

def readAndOrRest : Nat → Command → List Placed → Option (Command × List Placed)
  | 0, _, _ => none
  | fuel + 1, left, ts =>
    if isOp "&&" ts then do
      let (right, ts) ← readPipeline fuel (skipNewlines (ts.drop 1))
      readAndOrRest fuel (.both left right) ts
    else if isOp "||" ts then do
      let (right, ts) ← readPipeline fuel (skipNewlines (ts.drop 1))
      readAndOrRest fuel (.either left right) ts
    else some (left, ts)

def readPipeline : Nat → List Placed → Option (Command × List Placed)
  | 0, _ => none
  | fuel + 1, ts =>
    if isReserved "!" ts then
      (readPipeline fuel (ts.drop 1)).map fun (c, ts) => (.not c, ts)
    else do
      let (left, ts) ← readCommand fuel ts
      if isOp "|" ts then
        let (right, ts) ← readPipeline fuel (skipNewlines (ts.drop 1))
        return (.pipe left right, ts)
      else return (left, ts)

def readCommand : Nat → List Placed → Option (Command × List Placed)
  | 0, _ => none
  | fuel + 1, ts =>
    if isOp "(" ts then do
      let (body, ts) ← readList fuel (ts.drop 1)
      guard (isOp ")" ts)
      let (rs, ts) := readRedirections ts.length (ts.drop 1)
      return (.subshell body rs, ts)
    else if isReserved "\x7b" ts then do
      let (body, ts) ← readList fuel (ts.drop 1)
      let ts ← expect "\x7d" ts
      let (rs, ts) := readRedirections ts.length ts
      return (.group body rs, ts)
    else if isReserved "if" ts then do
      let (c, ts) ← readBranches fuel (ts.drop 1)
      return (c, ts)
    else if isReserved "while" ts || isReserved "until" ts then do
      let (test, rest) ← readList fuel (ts.drop 1)
      let rest ← expect "do" rest
      let (body, rest) ← readList fuel rest
      let rest ← expect "done" rest
      return (.loop (isReserved "while" ts) test body, rest)
    else if isReserved "for" ts then
      match ts.drop 1 with
      | ⟨_, .word w⟩ :: ts => do
        let name ← plain? w
        let ts ← expect "in" (skipNewlines ts)
        let (words, ts) := readWords ts.length ts
        guard (isOp ";" ts || isOp "\n" ts)
        let ts ← expect "do" (skipNewlines (ts.drop 1))
        let (body, ts) ← readList fuel ts
        let ts ← expect "done" ts
        return (.each name words body, ts)
      | _ => none
    else if isReserved "case" ts then
      match ts.drop 1 with
      | ⟨_, .word w⟩ :: ts => do
        let ts ← expect "in" (skipNewlines ts)
        let (arms, ts) ← readArms fuel (skipNewlines ts)
        return (.cases w arms, ts)
      | _ => none
    else
      let (_, words, rs, rest) := readSimple ts.length ts
      let (assigns, words) := splitAssigns words
      if assigns.isEmpty && words.isEmpty && rs.isEmpty then none
      else
        let line := (ts.head?.map (·.line)).getD 1
        some (.simple line assigns words rs, rest)

/-- The test, the branches and the end of a conditional. -/
def readBranches : Nat → List Placed → Option (Command × List Placed)
  | 0, _ => none
  | fuel + 1, ts => do
    let (test, ts) ← readList fuel ts
    let ts ← expect "then" ts
    let (yes, ts) ← readList fuel ts
    if isReserved "elif" ts then
      let (no, ts) ← readBranches fuel (ts.drop 1)
      return (.branch test yes no, ts)
    else if isReserved "else" ts then
      let (no, ts) ← readList fuel (ts.drop 1)
      let ts ← expect "fi" ts
      return (.branch test yes no, ts)
    else
      let ts ← expect "fi" ts
      return (.branch test yes .skip, ts)

/-- The arms of a case distinction, up to its end. -/
def readArms : Nat → List Placed → Option (List (List Word × Command) × List Placed)
  | 0, _ => none
  | fuel + 1, ts =>
    if isReserved "esac" ts then some ([], ts.drop 1)
    else do
      let ts := if isOp "(" ts then ts.drop 1 else ts
      let (patterns, ts) ← readPatterns ts.length ts
      let (body, ts) ← readList fuel ts
      let ts := if isOp ";;" ts then skipNewlines (ts.drop 1) else ts
      let (arms, ts) ← readArms fuel ts
      return ((patterns, body) :: arms, ts)

end

/-- The commands of a script, or none where it is not well formed. -/
def parse? (script : List Char) : Option Command := do
  let ts ← tokens (script.length + 1) 1 script
  let (c, rest) ← readList (6 * ts.length + 10) ts
  guard rest.isEmpty
  return c

end StackPlaybook.Rehearsal.Shell
