import StackPlaybook.Command

/-!
# StackPlaybook.Arguments

The command line: which arguments ask for which command.

Options have long names and some have short ones; short flags may be run together, and
a value may be attached or follow as an argument of its own.  After `--` every argument
is taken as it is.  No option may be given twice.
-/

namespace StackPlaybook

/-! ## Parameters -/

/-- What a parameter takes. -/
inductive ParameterKind where
  | flag
  | text
  /-- A path, which may not be empty. -/
  | path
  deriving DecidableEq, Repr

/-- An option or positional argument. -/
structure Parameter where
  name : String
  short : Option Char
  kind : ParameterKind
  required : Bool
  about : String

/-- A command as the command line knows it. -/
structure Topic where
  name : String
  about : String
  positional : Option Parameter
  options : List Parameter

namespace Topic

def region : Parameter :=
  ⟨"region", some 'r', .text, false, "Region (default: config file, then AWS_REGION, then us-east-1)"⟩

def resourcesFile : Parameter :=
  ⟨"resources", none, .path, false,
    "Read a saved describe-stack-resources JSON document instead of calling the AWS CLI"⟩

def json : Parameter := ⟨"json", none, .flag, false, "Output as JSON"⟩

def run : Topic :=
  ⟨"run", "Run a playbook defined in a YAML file",
    some ⟨"path", none, .path, true, "Path to the YAML playbook file"⟩,
    [⟨"verbose", some 'v', .flag, false, "Verbose output"⟩]⟩

def resolve : Topic :=
  ⟨"resolve", "Print the physical name and ARN of a stack resource",
    some ⟨"id", none, .text, true, "Logical ID, CDK construct ID or ARN"⟩,
    [⟨"stack", some 's', .text, false, "Stack name (required unless ID is an ARN)"⟩, region,
     resourcesFile,
     ⟨"manifest", none, .path, false, "CDK manifest.json used to translate construct IDs"⟩, json]⟩

def resources : Topic :=
  ⟨"resources", "List the resources of a stack", none,
    [⟨"stack", some 's', .text, true, "Stack name"⟩, region, resourcesFile, json]⟩

def all : List Topic := [run, resolve, resources]

def parameters (t : Topic) : List Parameter := t.positional.toList ++ t.options

end Topic

/-! ## Reading -/

/-- Why arguments do not lead to a command. -/
inductive Stop where
  /-- Help was asked for. -/
  | help
  | misuse
  deriving DecidableEq, Repr

/-- The values given so far under the names of their parameters. -/
abbrev Given := List (String × String)

namespace Topic

/-- Takes note of a value. -/
def give (p : Parameter) (value : String) (g : Given) : Except Stop Given :=
  if (g.lookup p.name).isSome || (p.kind == .path && value == "") then .error .misuse
  else .ok ((p.name, value) :: g)

/-- Whether an argument is an option or `--`, and thus no value. -/
def isOption (arg : String) : Bool := Text.startsWith arg "-" && arg != "-"

/-- Reads a long option.  Given back is also the option that waits for a value. -/
def readLong (t : Topic) (body : List Char) (g : Given) : Except Stop (Given × Option Parameter) :=
  let name := String.ofList (body.takeWhile (· != '='))
  let value := (body.dropWhile (· != '=')).tail?.map String.ofList
  if name = "help" then .error (if value.isSome then .misuse else .help)
  else match t.options.find? (·.name == name), value with
    | none, _ => .error .misuse
    | some p, some v => if p.kind = .flag then .error .misuse else (give p v g).map (·, none)
    | some p, none => if p.kind = .flag then (give p "" g).map (·, none) else .ok (g, some p)

/-- Reads short options that are run together. -/
def readShorts (t : Topic) : List Char → Given → Except Stop (Given × Option Parameter)
  | [], g => .ok (g, none)
  | c :: cs, g =>
    if c = 'h' then .error .help
    else match t.options.find? (·.short == some c) with
      | none => .error .misuse
      | some p =>
        if p.kind = .flag then (give p "" g).bind (readShorts t cs)
        else match cs with
          | [] => .ok (g, some p)
          | '=' :: v => (give p (String.ofList v) g).map (·, none)
          | v => (give p (String.ofList v) g).map (·, none)

/-- Reads a positional argument, of which a command has one at most. -/
def readPositional (t : Topic) (arg : String) (g : Given) : Except Stop Given :=
  match t.positional with
  | some p => give p arg g
  | none => .error .misuse

/-- Reads arguments, the first of which is the value of a waiting option. -/
def read (t : Topic) : (waiting : Option Parameter) → List String → Given → Except Stop Given
  | some _, [], _ => .error .misuse
  | none, [], g => .ok g
  | some p, arg :: rest, g =>
    if isOption arg then .error .misuse else (give p arg g).bind (read t none rest)
  | none, arg :: rest, g =>
    if arg = "--" then rest.foldlM (fun g a => t.readPositional a g) g
    else if isOption arg then
      match arg.toList with
      | '-' :: '-' :: body => (t.readLong body g).bind fun (g, p) => read t p rest g
      | body => (t.readShorts body.tail g).bind fun (g, p) => read t p rest g
    else (t.readPositional arg g).bind (read t none rest)

/-- The values of all parameters, where none that is required is missing. -/
def values (t : Topic) (args : List String) : Except Stop Given := do
  let g ← t.read none args []
  if t.parameters.all fun p => !p.required || (g.lookup p.name).isSome then return g
  else throw .misuse

end Topic

/-! ## Requests -/

namespace Given

def flag (g : Given) (name : String) : Bool := (g.lookup name).isSome

def text (g : Given) (name : String) : String := (g.lookup name).getD ""

def source (g : Given) : StackSource := ⟨g.lookup "region", g.lookup "resources"⟩

end Given

/-- What a command line asks for. -/
inductive Request where
  | command (c : Command)
  /-- Help on a command, or on the whole program. -/
  | help (topic : Option Topic)
  | version
  | misuse

namespace Request

/-- The request of a command's arguments. -/
def ofTopic (t : Topic) (args : List String) (command : Given → Command) : Request :=
  match t.values args with
  | .ok g => .command (command g)
  | .error .help => .help (some t)
  | .error .misuse => .misuse

/-- The request for help on something. -/
def helpOn : List String → Request
  | [] | ["help"] => .help none
  | [name] =>
    match Topic.all.find? (·.name == name) with
    | some t => .help (some t)
    | none => .misuse
  | _ => .misuse

/-- The request of all arguments. -/
def parse : List String → Request
  | "run" :: args =>
    ofTopic .run args fun g => .run (g.text "path") (g.flag "verbose")
  | "resolve" :: args =>
    ofTopic .resolve args fun g =>
      .resolve (g.text "id") (g.lookup "stack") g.source (g.lookup "manifest") (g.flag "json")
  | "resources" :: args =>
    ofTopic .resources args fun g => .resources (g.text "stack") g.source (g.flag "json")
  | "help" :: args => helpOn args
  | "--help" :: _ => .help none
  | "--version" :: _ => .version
  | arg :: _ =>
    match arg.toList with
    | '-' :: 'h' :: _ => .help none
    | '-' :: 'V' :: _ => .version
    | _ => .misuse
  | [] => .misuse

end Request

/-! ## Help -/

namespace Topic

/-- Two columns, the first as wide as its widest entry. -/
def columns (rows : List (String × String)) : String :=
  let width := (rows.map fun r => r.1.length).foldl max 0
  "\n".intercalate (rows.map fun r => "  " ++ Notice.padTo width r.1 ++ "  " ++ r.2)

/-- A placeholder for a value. -/
def placeholder (name : String) : String := "<" ++ name.toUpper ++ ">"

/-- An option as help shows it. -/
def optionText (p : Parameter) : String :=
  (match p.short with
    | some c => "-" ++ String.singleton c ++ ", "
    | none => "    ") ++ "--" ++ p.name ++
    (if p.kind = .flag then "" else " " ++ placeholder p.name)

/-- Help on a command. -/
def help (t : Topic) : String :=
  let required := t.options.filter (·.required)
  let usage := "Usage: stackprobe " ++ t.name ++ " [OPTIONS]" ++
    String.join (required.map fun p => " --" ++ p.name ++ " " ++ placeholder p.name) ++
    String.join (t.positional.toList.map fun p => " " ++ placeholder p.name)
  let arguments := match t.positional with
    | some p => ["Arguments:\n" ++ columns [(placeholder p.name, p.about)]]
    | none => []
  let options := t.options.map (fun p => (optionText p, p.about)) ++ [("-h, --help", "Print help")]
  "\n\n".intercalate ([t.about, usage] ++ arguments ++ ["Options:\n" ++ columns options])

/-- Help on the whole program. -/
def overview : String :=
  "\n\n".intercalate
    ["Integration test playbooks for deployed stacks", "Usage: stackprobe <COMMAND>",
     "Commands:\n" ++ columns (all.map (fun t => (t.name, t.about)) ++
      [("help", "Print this message or the help of the given subcommand(s)")]),
     "Options:\n" ++ columns [("-h, --help", "Print help"), ("-V, --version", "Print version")]]

end Topic

end StackPlaybook
