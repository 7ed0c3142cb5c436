import StackPlaybook.Rehearsal.Shell.State

/-!
# StackPlaybook.Rehearsal.Shell.Utility

The programs and built-in commands that rehearsed scripts can call.
-/

namespace StackPlaybook.Rehearsal.Shell

/-! ## Escapes -/

/-- Up to `n` octal digits read onto a value, and what follows them. -/
def readOctal : Nat → Nat → List Char → Nat × List Char
  | n + 1, value, c :: cs =>
    if '0' ≤ c ∧ c ≤ '7' then readOctal n (value * 8 + (c.toNat - 48)) cs else (value, c :: cs)
  | _, value, cs => (value, cs)

/-- The byte of a one-letter escape. -/
def escapeByte? (c : Char) : Option UInt8 :=
  [('n', 10), ('t', 9), ('r', 13), ('a', 7), ('b', 8), ('f', 12), ('v', 11), ('\\', 92)].lookup c

/-- A text with its backslash escapes as bytes, and whether it was ended by `\c`. -/
def unescape : Nat → List Char → Bytes × Bool
  | 0, _ => ([], false)
  | _ + 1, [] => ([], false)
  | fuel + 1, '\\' :: c :: cs =>
    if c = 'c' then ([], true)
    else match escapeByte? c with
      | some b =>
        let (rest, stop) := unescape fuel cs
        (b :: rest, stop)
      | none =>
        if '0' ≤ c ∧ c ≤ '7' then
          let (value, cs) := readOctal 3 0 (if c = '0' then cs else c :: cs)
          let (rest, stop) := unescape fuel cs
          (UInt8.ofNat value :: rest, stop)
        else
          let (rest, stop) := unescape fuel (c :: cs)
          (92 :: rest, stop)
  | fuel + 1, c :: cs =>
    let (rest, stop) := unescape fuel cs
    (Bytes.ofString (String.ofList [c]) ++ rest, stop)

def unescapeAll (text : String) : Bytes × Bool := unescape (text.length + 1) text.toList

/-! ## Formats -/

/-- Reads a whole number with an optional sign. -/
def readInt? (text : String) : Option Int :=
  match text.toList with
  | '-' :: cs => (digits? cs).map fun n => -(n : Int)
  | '+' :: cs => (digits? cs).map Int.ofNat
  | cs => (digits? cs).map Int.ofNat
where
  digits? (cs : List Char) : Option Nat :=
    if cs.isEmpty || !cs.all Char.isDigit then none
    else some (cs.foldl (fun n c => n * 10 + (c.toNat - 48)) 0)

/-- One pass over a format: what it writes, and the arguments that it leaves. -/
def formatOnce : Nat → List Char → List String → Bytes × List String
  | 0, _, args => ([], args)
  | _ + 1, [], args => ([], args)
  | fuel + 1, '%' :: c :: cs, args =>
    if c = '%' then
      let (rest, args) := formatOnce fuel cs args
      (37 :: rest, args)
    else
      let arg := args.headD ""
      let shown : Bytes :=
        if c = 'd' ∨ c = 'i' then Bytes.ofString (toString ((readInt? arg).getD 0))
        else if c = 'b' then (unescapeAll arg).1
        else if c = 'c' then (Bytes.ofString arg).take 1
        else Bytes.ofString arg
      let (rest, args) := formatOnce fuel cs (args.drop 1)
      (shown ++ rest, args)
  | fuel + 1, cs, args =>
    let run := cs.takeWhile (· != '%')
    let run := if run.isEmpty then cs.take 1 else run
    let (rest, args) := formatOnce fuel (cs.drop run.length) args
    ((unescapeAll (String.ofList run)).1 ++ rest, args)

/-- A format applied as often as there are arguments for it. -/
def formatAll (format : String) : Nat → List String → Bytes
  | 0, _ => []
  | fuel + 1, args =>
    let (written, rest) := formatOnce (format.length + 1) format.toList args
    if rest.isEmpty ∨ rest.length = args.length then written
    else written ++ formatAll format fuel rest

/-! ## Tests -/

/-- Compares two whole numbers by an operator. -/
def compareInts? (op : String) (a b : Int) : Option Bool :=
  match op with
  | "-eq" => some (a == b)
  | "-ne" => some (a != b)
  | "-lt" => some (a < b)
  | "-le" => some (a ≤ b)
  | "-gt" => some (a > b)
  | "-ge" => some (a ≥ b)
  | _ => none

/-- Whether a condition holds, or why it is none. -/
def condition (s : State) : List String → Except String Bool
  | [] => .ok false
  | [a] => .ok (a != "")
  | ["!", a] => .ok (a == "")
  | [op, a] =>
    let found := (s.root.locate s.folder a).toOption.bind (·.node)
    match op with
    | "-n" => .ok (a != "")
    | "-z" => .ok (a == "")
    | "-e" => .ok found.isSome
    | "-f" => .ok (match found with | some (.file ..) => true | _ => false)
    | "-d" => .ok (match found with | some (.folder _) => true | _ => false)
    | "-s" => .ok (match found with | some (.file c _) => !c.isEmpty | some _ => true | _ => false)
    | "-r" | "-w" => .ok found.isSome
    | "-x" => .ok (match found with | some (.file _ x) => x | some _ => true | _ => false)
    | _ => .error (op ++ ": unexpected operator")
  | ["!", a, b] => (condition s [a, b]).map (!·)
  | [a, op, b] =>
    match op with
    | "=" | "==" => if op == "=" then .ok (a == b) else .error (a ++ ": unexpected operator")
    | "!=" => .ok (a != b)
    | "-a" => .ok (a != "" && b != "")
    | "-o" => .ok (a != "" || b != "")
    | _ =>
      match readInt? a, readInt? b with
      | some x, some y =>
        match compareInts? op x y with
        | some r => .ok r
        | none => .error (op ++ ": unexpected operator")
      | x, _ =>
        if (compareInts? op 0 0).isSome then
          .error ("Illegal number: " ++ (if x.isSome then b else a))
        else .error (op ++ ": unexpected operator")
  | "!" :: rest => (condition s rest).map (!·)
  | a :: _ => .error (a ++ ": unexpected operator")

/-! ## Calls -/

def lineBreak : UInt8 := 10

/-- The first line of the input without its break, and the rest; none at the end. -/
def takeLine (input : Bytes) : Bytes × Bytes × Bool :=
  (input.takeWhile (· != lineBreak), (input.dropWhile (· != lineBreak)).drop 1,
    input.contains lineBreak)

/-- The lines of bytes, without their breaks. -/
def lines (bs : Bytes) : List Bytes :=
  let runs := bs.foldr (fun b runs =>
    if b = lineBreak then [] :: runs
    else match runs with
      | run :: runs => (b :: run) :: runs
      | [] => [[b]]) [[]]
  if runs.getLastD [] = [] then runs.dropLast else runs

/-- The lines with their breaks. -/
def unlines (ls : List Bytes) : Bytes := ls.flatMap (· ++ [lineBreak])

/-- The bytes of the named files one after another, or of the input if none is named;
faults are complained about. -/
def gather (tool : String) (files : List String) (s : State) : Bytes × Nat × State :=
  if files.isEmpty then (s.input, 0, { s with input := [] })
  else files.foldl (fun (bytes, status, s) f =>
    if f = "-" then (bytes ++ s.input, status, { s with input := [] })
    else match s.readFile f with
      | .ok content => (bytes ++ content, status, s)
      | .error e => (bytes, 1, s.complain (tool ++ ": " ++ f ++ ": " ++ e.short ++ "\n")))
    ([], 0, s)

/-- Counts lines, words and bytes. -/
def count (bs : Bytes) : Nat × Nat × Nat :=
  let blank (b : UInt8) : Bool := b == 32 || (9 ≤ b && b ≤ 13)
  let words := (bs.foldl (fun (n, inside) b =>
    if blank b then (n, false) else (if inside then n else n + 1, true)) (0, false)).1
  (bs.count lineBreak, words, bs.length)

/-- A count of lines given as `-n N` or `-N`, and the remaining arguments. -/
def lineCount : List String → Nat × List String
  | "-n" :: n :: rest => ((n.toNat?).getD 10, rest)
  | a :: rest =>
    match a.toList with
    | '-' :: 'n' :: cs => ((String.ofList cs).toNat?.getD 10, rest)
    | '-' :: cs => (((String.ofList cs).toNat?).getD 10, rest)
    | _ => (10, a :: rest)
  | [] => (10, [])

/-- A text without the blanks at its ends, for `read`. -/
def trimBlanks (cs : List Char) : List Char :=
  let drop (cs : List Char) := cs.dropWhile fun c => c == ' ' || c == '\t'
  (drop (drop cs).reverse).reverse

/-- Assigns the words of a line to variables; the last takes all that is left. -/
def assignWords : List String → List Char → State → State
  | [], _, s => s
  | [name], cs, s => s.setVariable name (String.ofList (trimBlanks cs))
  | name :: names, cs, s =>
    let cs := cs.dropWhile fun c => c == ' ' || c == '\t'
    let word := cs.takeWhile fun c => !(c == ' ' || c == '\t')
    assignWords names (cs.drop word.length) (s.setVariable name (String.ofList word))

/-- Runs a program that only reads and writes; none if there is no such program. -/
def callProgram (name : String) (args : List String) (s : State) : Option State :=
  match name with
  | ":" | "true" | "sleep" | "export" | "set" | "sync" => some (s.withStatus 0)
  | "false" => some (s.withStatus 1)
  | "echo" =>
    let (fresh, args) := match args with
      | "-n" :: rest => (false, rest)
      | args => (true, args)
    let (bytes, stop) := unescapeAll (" ".intercalate args)
    some ((s.write (bytes ++ if fresh && !stop then [lineBreak] else [])).withStatus 0)
  | "printf" =>
    match args with
    | [] => some ((s.complain "sh: 1: printf: usage: printf format [arg ...]\n").withStatus 2)
    | format :: args => some ((s.write (formatAll format (args.length + 1) args)).withStatus 0)
  | "test" => some (judge s args)
  | "[" =>
    if args.getLast? = some "]" then some (judge s args.dropLast)
    else some ((s.complain ("sh: 1: [: missing ]\n")).withStatus 2)
  | "cat" =>
    let (bytes, status, s) := gather "cat" args s
    some ((s.write bytes).withStatus status)
  | "wc" =>
    let (options, files) := args.partition fun a => Text.startsWith a "-" && a != "-"
    let (bytes, status, s) := gather "wc" files s
    let (l, w, b) := count bytes
    let chosen := options.flatMap fun o => (o.toList.drop 1).filterMap fun c =>
      if c = 'l' then some l else if c = 'w' then some w
      else if c = 'c' ∨ c = 'm' then some b else none
    let name := if files.length = 1 then " " ++ files.headD "" else ""
    let shown := match chosen with
      | [] => " ".intercalate ([l, w, b].map fun n =>
          String.ofList (List.replicate (7 - (toString n).length) ' ') ++ toString n)
      | ns => " ".intercalate (ns.map toString)
    some ((s.print (shown ++ name ++ "\n")).withStatus status)
  | "head" =>
    let (n, files) := lineCount args
    let (bytes, status, s) := gather "head" files s
    let kept := (lines bytes).take n
    let whole := kept.length = (lines bytes).length && bytes.getLast? != some lineBreak
    some ((s.write (if whole then bytes else unlines kept)).withStatus status)
  | "tail" =>
    let (n, files) := lineCount args
    let (bytes, status, s) := gather "tail" files s
    let all := lines bytes
    let out := unlines (all.drop (all.length - n))
    some ((s.write (if bytes.getLast? == some lineBreak then out else out.dropLast)).withStatus status)
  | "grep" =>
    let (options, rest) := args.partition fun a => Text.startsWith a "-" && a != "-"
    match rest with
    | [] => some (s.withStatus 2)
    | pattern :: files =>
      let (bytes, status, s) := gather "grep" files s
      let invert := options.any fun o => o.toList.contains 'v'
      let hits := (lines bytes).filter fun l => Text.contains l.decodeLossy pattern != invert
      let s := if options.any fun o => o.toList.contains 'q' then s
        else if options.any fun o => o.toList.contains 'c' then s.print (toString hits.length ++ "\n")
        else s.write (unlines hits)
      some (s.withStatus (if status ≠ 0 then 2 else if hits.isEmpty then 1 else 0))
  | "seq" =>
    let bounds := args.filterMap readInt?
    let (low, high) := match bounds with
      | [h] => (1, h)
      | [l, h] => (l, h)
      | _ => (1, 0)
    some ((s.print (String.join ((List.range (high - low + 1).toNat).map fun (i : Nat) =>
      toString (low + (i : Int)) ++ "\n"))).withStatus 0)
  | "pwd" => some ((s.print ("/" ++ "/".intercalate s.folder ++ "\n")).withStatus 0)
  | "touch" =>
    some ((args.foldl (fun s f =>
      match s.root.locate s.folder f with
      | .ok ⟨names, none⟩ => { s with root := s.root.put names (.file [] false) }
      | _ => s) s).withStatus 0)
  | "mkdir" =>
    some ((args.foldl (fun s f =>
      if f = "-p" then s
      else match s.root.locate s.folder f with
        | .ok ⟨names, none⟩ => { s with root := s.root.put names Node.emptyFolder }
        | _ => s) s).withStatus 0)
  | "rm" =>
    let force := args.any fun a => Text.startsWith a "-" && a.toList.contains 'f'
    some ((args.filter fun a => !Text.startsWith a "-").foldl (fun s f =>
      match s.root.locate s.folder f with
      | .ok ⟨names, some _⟩ => { s with root := s.root.remove names }
      | .ok ⟨_, none⟩ | .error _ =>
        if force then s
        else (s.complain ("rm: cannot remove '" ++ f ++ "': No such file or directory\n")).withStatus 1)
      (s.withStatus 0))
  | _ => none
where
  judge (s : State) (args : List String) : State :=
    match condition s args with
    | .ok holds => s.withStatus (if holds then 0 else 1)
    | .error e => (s.complain ("sh: 1: " ++ name ++ ": " ++ e ++ "\n")).withStatus 2

end StackPlaybook.Rehearsal.Shell
