import StackPlaybook.Rehearsal.Shell.Script
import StackPlaybook.Rehearsal.Shell.Utility

/-!
# StackPlaybook.Rehearsal.Shell.Run

Running scripts.  Commands run one after another on one state; fuel bounds the depth
and length of a run, and a script that uses it up counts as killed.
-/

namespace StackPlaybook.Rehearsal.Shell

/-! ## Patterns -/

/-- A character of a word with whether it was quoted. -/
abbrev Mark := Char × Bool

/-- Whether a text matches a pattern: an unquoted `*` stands for any run, an unquoted
`?` for any character. -/
def matchesPattern : Nat → List Mark → List Char → Bool
  | 0, _, _ => false
  | _ + 1, [], cs => cs.isEmpty
  | fuel + 1, ('*', false) :: ps, cs =>
    matchesPattern fuel ps cs ||
      (match cs with
      | [] => false
      | _ :: rest => matchesPattern fuel (('*', false) :: ps) rest)
  | fuel + 1, ('?', false) :: ps, cs =>
    (match cs with
    | [] => false
    | _ :: rest => matchesPattern fuel ps rest)
  | fuel + 1, (p, _) :: ps, cs =>
    (match cs with
    | c :: rest => c == p && matchesPattern fuel ps rest
    | [] => false)

/-! ## Fields -/

/-- The fields of a word under construction: the finished ones last first, and the
one that further parts add to. -/
structure Fields where
  done : List (List Mark)
  open_ : Option (List Mark)

namespace Fields

def add (f : Fields) (marks : List Mark) : Fields :=
  { f with open_ := some (f.open_.getD [] ++ marks) }

/-- Ends the field under construction. -/
def cut (f : Fields) : Fields :=
  match f.open_ with
  | some marks => ⟨marks :: f.done, none⟩
  | none => f

/-- Adds the value of an unquoted substitution, which blanks split. -/
def addSplit (f : Fields) (cs : List Char) : Fields :=
  cs.foldl (fun f c =>
    if c = ' ' ∨ c = '\t' ∨ c = '\n' then f.cut else f.add [(c, false)]) f

def toList (f : Fields) : List (List Mark) := f.cut.done.reverse

end Fields

def textOf (marks : List Mark) : String := String.ofList (marks.map (·.1))

/-! ## Calls that steer the shell -/

/-- Runs a call that acts on the shell itself; none if it is not such a call. -/
def callBuiltin (name : String) (args : List String) (s : State) : Option (Flow × State) :=
  match name with
  | "exit" =>
    match args with
    | [] => some (.exit, s)
    | a :: _ =>
      match a.toNat? with
      | some n => some (.exit, s.withStatus (n % 256))
      | none => some (.exit, (s.complain ("sh: 1: exit: Illegal number: " ++ a ++ "\n")).withStatus 2)
  | "kill" =>
    if args.getLast? = some "1" then
      if args.head? = some "-0" then some (.next, s.withStatus 0) else some (.killed, s)
    else some (.next, s.withStatus 1)
  | "break" => some (.leave ((args.head?.bind (·.toNat?)).getD 1), s.withStatus 0)
  | "continue" => some (.again ((args.head?.bind (·.toNat?)).getD 1), s.withStatus 0)
  | "shift" => some (.next, { s with args := s.args.drop 1, status := 0 })
  | "unset" =>
    some (.next, { s with vars := s.vars.filter fun v => !args.contains v.1, status := 0 })
  | "cd" =>
    match s.root.locate s.folder (args.headD "") with
    | .ok ⟨names, some (.folder _)⟩ => some (.next, { s with folder := names, status := 0 })
    | _ => some (.next,
        (s.complain ("sh: 1: cd: can't cd to " ++ args.headD "" ++ "\n")).withStatus 2)
  | "read" =>
    let names := args.filter (· != "-r")
    let (line, rest, whole) := takeLine s.input
    let s := assignWords names line.decodeLossy.toList { s with input := rest }
    some (.next, s.withStatus (if whole then 0 else 1))
  | _ => none

/-- Assigns variables, and exports those of `export`. -/
def exportAll (args : List String) (s : State) : State :=
  args.foldl (fun s a =>
    match Text.splitAt '=' a.toList with
    | name :: value :: more =>
      s.setVariable (String.ofList name)
        ("=".intercalate ((value :: more).map String.ofList))
    | _ => s) s

/-! ## Running -/

mutual

/-- The fields that a word stands for. -/
def expandWord : Nat → Word → Fields → State → Fields × State
  | 0, _, f, s => (f, s)
  | _ + 1, [], f, s => (f, s)
  | fuel + 1, .text cs quoted :: parts, f, s =>
    expandWord fuel parts (f.add (cs.map ((·, quoted)))) s
  | fuel + 1, .parameter "@" true :: parts, f, s =>
    let f := match s.args with
      | [] => f
      | a :: rest => rest.foldl (fun f a => f.cut.add (a.toList.map ((·, true))))
          (f.add (a.toList.map ((·, true))))
    expandWord fuel parts f s
  | fuel + 1, .parameter name quoted :: parts, f, s =>
    let value := (s.parameter name).toList
    expandWord fuel parts
      (if quoted then f.add (value.map ((·, true))) else f.addSplit value) s
  | fuel + 1, .output script quoted :: parts, f, s =>
    let (bytes, s) := capture fuel script s
    let value := bytes.decodeLossy.toList
    let value := (value.reverse.dropWhile (· == '\n')).reverse
    expandWord fuel parts
      (if quoted then f.add (value.map ((·, true))) else f.addSplit value) s

/-- What a script writes, run on a state whose other changes of the shell are lost. -/
def capture : Nat → List Char → State → Bytes × State
  | 0, _, s => ([], s)
  | fuel + 1, script, s =>
    match parse? script with
    | none => ([], s.withStatus 2)
    | some c =>
      let inner := { s with out := [], sink := .out }
      let (_, after) := exec fuel c inner
      (after.out, { after with out := s.out, sink := s.sink, errSink := s.errSink,
                               folder := s.folder, vars := s.vars, args := s.args })

/-- The fields of several words. -/
def expandWords : Nat → List Word → State → List String × State
  | 0, _, s => ([], s)
  | _ + 1, [], s => ([], s)
  | fuel + 1, w :: ws, s =>
    let (f, s) := expandWord fuel w ⟨[], none⟩ s
    let (rest, s) := expandWords fuel ws s
    (f.toList.map textOf ++ rest, s)

/-- A word as one text. -/
def expandText : Nat → Word → State → String × State
  | 0, _, s => ("", s)
  | fuel + 1, w, s =>
    let (f, s) := expandWord fuel w ⟨[], none⟩ s
    (" ".intercalate (f.toList.map textOf), s)

/-- Assigns the values of words to variables. -/
def assignAll : Nat → List (String × Word) → State → State
  | 0, _, s => s
  | _ + 1, [], s => s
  | fuel + 1, (name, w) :: rest, s =>
    let (value, s) := expandText fuel w s
    assignAll fuel rest (s.setVariable name value)

/-- Redirects, or tells why that cannot be done. -/
def redirect : Nat → List Redirection → State → Except State State
  | 0, _, s => .error s
  | _ + 1, [], s => .ok s
  | fuel + 1, r :: rs, s =>
    let (target, s) := expandText fuel r.target s
    let fault (action : String) (e : Fault) : Except State State :=
      .error ((s.complain ("sh: 1: cannot " ++ action ++ " " ++ target ++ ": " ++
        (if e = .missing ∧ action = "open" then "No such file" else
          if e = .missing then "Directory nonexistent" else e.short) ++ "\n")).withStatus 2)
    let aim (sink : Sink) (s : State) : State :=
      if r.fd = 2 then { s with errSink := sink } else if r.fd = 1 then { s with sink } else s
    match r.op with
    | "<" =>
      match s.readFile target with
      | .ok bytes => redirect fuel rs { s with input := bytes }
      | .error e => fault "open" e
    | ">&" =>
      let sink := if target = "2" then s.errSink else s.sink
      redirect fuel rs (aim sink s)
    | ">" | ">>" =>
      match s.root.locate s.folder target with
      | .error e => fault "create" e
      | .ok ⟨_, some (.folder _)⟩ => fault "create" .isFolder
      | .ok ⟨names, node⟩ =>
        let root := match node with
          | some (.file _ executable) =>
            if r.op = ">" then s.root.put names (.file [] executable) else s.root
          | _ => s.root.put names (.file [] false)
        redirect fuel rs (aim (.file names) { s with root })
    | _ => redirect fuel rs s

/-- Runs a command. -/
def exec : Nat → Command → State → Flow × State
  | 0, _, s => (.killed, s)
  | fuel + 1, c, s =>
    match c with
    | .skip => (.next, s)
    | .seq a b =>
      match exec fuel a s with
      | (.next, s) => exec fuel b s
      | r => r
    | .not a =>
      match exec fuel a s with
      | (.next, s) => (.next, s.withStatus (if s.status = 0 then 1 else 0))
      | r => r
    | .both a b =>
      match exec fuel a s with
      | (.next, s) => if s.status = 0 then exec fuel b s else (.next, s)
      | r => r
    | .either a b =>
      match exec fuel a s with
      | (.next, s) => if s.status = 0 then (.next, s) else exec fuel b s
      | r => r
    | .pipe a b =>
      let (flow, left) := exec fuel a { s with out := [], sink := .out }
      if flow = .killed then (.killed, s)
      else
        let (flow, right) :=
          exec fuel b { s with root := left.root, err := left.err, input := left.out }
        let after := { s with root := right.root, out := right.out, err := right.err,
                              status := right.status, input := left.input }
        (if flow = .killed then .killed else .next, after)
    | .subshell body rs =>
      match redirect fuel rs s with
      | .error s => (.next, s)
      | .ok inner =>
        let (flow, after) := exec fuel body inner
        (if flow = .killed then .killed else .next,
          { s with root := after.root, out := after.out, err := after.err, status := after.status })
    | .group body rs =>
      match redirect fuel rs s with
      | .error s => (.next, s)
      | .ok inner =>
        let (flow, after) := exec fuel body inner
        (flow, { after with sink := s.sink, errSink := s.errSink })
    | .branch test yes no =>
      match exec fuel test s with
      | (.next, s) => if s.status = 0 then exec fuel yes s else exec fuel no (s.withStatus 0)
      | r => r
    | .loop while_ test body =>
      match exec fuel test s with
      | (.next, t) =>
        if (t.status = 0) = while_ then
          match exec fuel body t with
          | (.next, s) | (.again 1, s) => exec fuel (.loop while_ test body) s
          | (.leave n, s) => (if n ≤ 1 then .next else .leave (n - 1), s)
          | (.again n, s) => (.again (n - 1), s)
          | r => r
        else (.next, t.withStatus 0)
      | r => r
    | .each name words body =>
      let (fields, s) := expandWords fuel words s
      execEach fuel name fields body (s.withStatus 0)
    | .cases subject arms =>
      let (text, s) := expandText fuel subject s
      execArms fuel text.toList arms (s.withStatus 0)
    | .simple line assigns words rs =>
      let (fields, s) := expandWords fuel words s
      match fields with
      | [] =>
        match redirect fuel rs (assignAll fuel assigns (s.withStatus 0)) with
        | .error s => (.next, s)
        | .ok after => (.next, { after with sink := s.sink, errSink := s.errSink, input := s.input })
      | name :: args =>
        let s := assignAll fuel assigns s
        match redirect fuel rs s with
        | .error s => (.next, s)
        | .ok inner =>
          let (flow, after) :=
            match callBuiltin name args inner with
            | some r => r
            | none =>
              let inner := if name = "export" then exportAll args inner else inner
              match callProgram name args inner with
              | some after => (.next, after)
              | none => (.next, (inner.complain (s.script ++ ": " ++ toString line ++ ": " ++ name ++
                  ": not found\n")).withStatus 127)
          let feeds := rs.any fun r => r.op = "<"
          let input := if feeds then s.input else after.input
          (flow, { after with sink := s.sink, errSink := s.errSink, input })

/-- Runs the body of a loop for each value. -/
def execEach : Nat → String → List String → Command → State → Flow × State
  | 0, _, _, _, s => (.killed, s)
  | _ + 1, _, [], _, s => (.next, s)
  | fuel + 1, name, v :: vs, body, s =>
    match exec fuel body (s.setVariable name v) with
    | (.next, s) | (.again 1, s) => execEach fuel name vs body s
    | (.leave n, s) => (if n ≤ 1 then .next else .leave (n - 1), s)
    | (.again n, s) => (.again (n - 1), s)
    | r => r

/-- Runs the first arm that a text matches. -/
def execArms : Nat → List Char → List (List Word × Command) → State → Flow × State
  | 0, _, _, s => (.killed, s)
  | _ + 1, _, [], s => (.next, s)
  | fuel + 1, text, (patterns, body) :: arms, s =>
    let (hit, s) := matchesAny fuel text patterns s
    if hit then exec fuel body s else execArms fuel text arms s

/-- Whether a text matches one of several patterns. -/
def matchesAny : Nat → List Char → List Word → State → Bool × State
  | 0, _, _, s => (false, s)
  | _ + 1, _, [], s => (false, s)
  | fuel + 1, text, w :: ws, s =>
    let (f, s) := expandWord fuel w ⟨[], none⟩ s
    let marks := f.toList.flatten
    if matchesPattern (text.length + marks.length + 1) marks text then (true, s)
    else matchesAny fuel text ws s

end

/-- How many steps a script may take. -/
def budget : Nat := 100000

/-- The end of a script run to completion: its exit code, unless it was killed, and
the state that it leaves. -/
def run (script : List Char) (s : State) : Option Nat × State :=
  match parse? script with
  | none => (some 2, (s.complain (s.script ++ ": 1: Syntax error\n")).withStatus 2)
  | some c =>
    match exec budget c s with
    | (.killed, s) => (none, s)
    | (_, s) => (some s.status, s)

end StackPlaybook.Rehearsal.Shell
