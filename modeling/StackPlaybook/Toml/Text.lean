import StackPlaybook.Text.Utf8

/-!
# StackPlaybook.Toml.Text

The strings of TOML: basic ones with escapes and literal ones without, each on one
line or on several.
-/

namespace StackPlaybook.Toml

/-- Line breaks are a line feed, or a carriage return before one. -/
def readBreak : List Char → Option (List Char)
  | '\n' :: cs => some cs
  | '\r' :: '\n' :: cs => some cs
  | _ => none

/-- A character that may stand in strings and comments as it is. -/
def isPlain (c : Char) : Bool := c == '\t' || (32 ≤ c.toNat && c.toNat != 127)

namespace Text

/-- The character with a code, which must not be half of a surrogate pair. -/
def scalar? (n : Nat) : Option Char :=
  if n < 0xD800 ∨ (0xDFFF < n ∧ n < 0x110000) then some (Char.ofNat n) else none

/-- The character of `n` hexadecimal digits, and what follows them. -/
def readCode (n : Nat) (cs : List Char) : Option (Char × List Char) := do
  guard (n ≤ cs.length)
  let v ← (cs.take n).foldlM (fun v c => (Bytes.hexDigit? c).map (v * 16 + ·)) 0
  return (← scalar? v, cs.drop n)

/-- What follows a backslash: the character meant, and the rest. -/
def readEscape : List Char → Option (Char × List Char)
  | 'b' :: cs => some (Char.ofNat 8, cs)
  | 't' :: cs => some ('\t', cs)
  | 'n' :: cs => some ('\n', cs)
  | 'f' :: cs => some (Char.ofNat 12, cs)
  | 'r' :: cs => some ('\r', cs)
  | '"' :: cs => some ('"', cs)
  | '\\' :: cs => some ('\\', cs)
  | 'u' :: cs => readCode 4 cs
  | 'U' :: cs => readCode 8 cs
  | _ => none

/-! ## On one line -/

/-- A basic string from after its opening quote. -/
def readBasic : Nat → List Char → List Char → Option (String × List Char)
  | 0, _, _ => none
  | _ + 1, _, [] => none
  | fuel + 1, done, c :: cs =>
    if c = '"' then some (String.ofList done.reverse, cs)
    else if c = '\\' then do
      let (e, rest) ← readEscape cs
      readBasic fuel (e :: done) rest
    else if isPlain c then readBasic fuel (c :: done) cs
    else none

/-- A literal string from after its opening quote. -/
def readLiteral (cs : List Char) : Option (String × List Char) :=
  let body := cs.takeWhile fun c => c != '\'' && isPlain c
  match cs.drop body.length with
  | '\'' :: rest => some (String.ofList body, rest)
  | _ => none

/-! ## On several lines -/

/-- The text after the blanks and line breaks at its front. -/
def skipSpace : Nat → List Char → List Char
  | 0, cs => cs
  | fuel + 1, cs =>
    match cs with
    | ' ' :: rest | '\t' :: rest => skipSpace fuel rest
    | cs =>
      match readBreak cs with
      | some rest => skipSpace fuel rest
      | none => cs

/-- A backslash before a line break takes away all space up to the next character;
this is the text after that space. -/
def readJoin (cs : List Char) : Option (List Char) :=
  (readBreak (cs.dropWhile fun c => c == ' ' || c == '\t')).map fun rest =>
    skipSpace rest.length rest

/-- A string in triple quotes `q` from after the opening ones, with escapes if
`escapes`.  Up to two quotes may stand directly before the closing three. -/
def readLong (q : Char) (escapes : Bool) : Nat → List Char → List Char → Option (String × List Char)
  | 0, _, _ => none
  | _ + 1, _, [] => none
  | fuel + 1, done, c :: cs =>
    if c = q then
      let run := (c :: cs).takeWhile (· == q)
      let rest := (c :: cs).drop run.length
      if run.length < 3 then readLong q escapes fuel (run ++ done) rest
      else if run.length ≤ 5 then
        some (String.ofList (List.replicate (run.length - 3) q ++ done).reverse, rest)
      else none
    else if c = '\\' ∧ escapes then
      match readJoin cs with
      | some rest => readLong q escapes fuel done rest
      | none => do
        let (e, rest) ← readEscape cs
        readLong q escapes fuel (e :: done) rest
    else if let some rest := readBreak (c :: cs) then readLong q escapes fuel ('\n' :: done) rest
    else if isPlain c then readLong q escapes fuel (c :: done) cs
    else none

/-- The text without a line break at its front. -/
def afterBreak (cs : List Char) : List Char := (readBreak cs).getD cs

/-- A string in quotes of any kind. -/
def read (cs : List Char) : Option (String × List Char) :=
  match cs with
  | '"' :: '"' :: '"' :: cs => readLong '"' true (cs.length + 1) [] (afterBreak cs)
  | '\'' :: '\'' :: '\'' :: cs => readLong '\'' false (cs.length + 1) [] (afterBreak cs)
  | '"' :: cs => readBasic (cs.length + 1) [] cs
  | '\'' :: cs => readLiteral cs
  | _ => none

/-- A string in quotes that must end on its line, as keys are written. -/
def readShort (cs : List Char) : Option (String × List Char) :=
  match cs with
  | '"' :: cs => readBasic (cs.length + 1) [] cs
  | '\'' :: cs => readLiteral cs
  | _ => none

end Text

end StackPlaybook.Toml
