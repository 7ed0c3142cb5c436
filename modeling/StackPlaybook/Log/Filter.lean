import StackPlaybook.Log
import StackPlaybook.Text.Search

/-!
# StackPlaybook.Log.Filter

Which log events are shown.

A filter is a list of directives such as `stackprobe=debug` or `warn`.  For an event the
directive with the longest target counts that begins the target of the event; one
without a target counts for all events that no other is about.
-/

namespace StackPlaybook.Log

/-! ## Directives -/

/-- The least important level that is shown under a target; without a level nothing is. -/
structure Directive where
  target : Option String
  level : Option Level
  deriving DecidableEq, Repr

/-- A name or number of a level, or of none at all. -/
def levelOf? (word : String) : Option (Option Level) :=
  match word.toLower with
  | "off" | "0" => some none
  | "error" | "1" => some (some .error)
  | "warn" | "2" => some (some .warn)
  | "info" | "3" => some (some .info)
  | "debug" | "4" => some (some .debug)
  | "trace" | "5" => some (some .trace)
  | _ => none

namespace Directive

/-- Characters of a target. -/
def isTargetChar (c : Char) : Bool := c.isAlphanum || c == '_' || c == ':' || c == '-' || 0x80 ≤ c.toNat

/-- A part of a directive in front of its level: a target, or a span in brackets. -/
inductive Part where
  | target (name : String)
  | span

/-- Reads one part. -/
def readPart : List Char → Option (Part × List Char)
  | '[' :: cs =>
    match cs.dropWhile (· != ']') with
    | _ :: rest => some (.span, rest)
    | [] => none
  | cs =>
    match cs.takeWhile isTargetChar with
    | [] => none
    | name => some (.target (String.ofList name), cs.drop name.length)

/-- Reads the level after the parts; a target without one shows everything. -/
def readLevel : List Char → Option (Option Level)
  | [] | ['='] => some (some .trace)
  | '=' :: cs => levelOf? (String.ofList cs)
  | _ => none

/-- A directive of at most two parts.  One about a span gives nothing, for events are
in no spans here. -/
def ofParts (parts : List Part) (level : Option Level) : Option Directive :=
  let isSpan : Part → Bool
    | .span => true
    | .target _ => false
  if parts.any isSpan then none
  else match parts with
    | .target name :: _ =>
      some ⟨if (levelOf? name).isSome then none else some name, level⟩
    | _ => none

/-- Reads a directive; the inner value is missing where it concerns no events. -/
def parse? (word : String) : Option (Option Directive) :=
  match levelOf? word with
  | some level => some (some ⟨none, level⟩)
  | none => do
    let (first, rest) ← readPart word.toList
    match readPart rest with
    | some (second, rest) => return ofParts [first, second] (← readLevel rest)
    | none => return ofParts [first] (← readLevel rest)

/-- The bytes of the target that an event is matched with, if the directive is about
the event. -/
def weight? (d : Directive) (e : Event) : Option Nat :=
  match d.target with
  | none => some 0
  | some t => if Text.startsWith e.target t then some (t.utf8ByteSize + 1) else none

/-- Whether the directive shows an event that it is about. -/
def shows (d : Directive) (e : Event) : Bool := d.level.any fun l => l.rank ≤ e.level.rank

end Directive

/-! ## Filters -/

abbrev Filter := List Directive

namespace Filter

/-- The directive that counts for an event: of two equally good ones the later. -/
def deciding? (e : Event) : Filter → Option (Nat × Directive)
  | [] => none
  | d :: ds =>
    match d.weight? e, deciding? e ds with
    | some w, some (w', d') => if w ≤ w' then some (w', d') else some (w, d)
    | some w, none => some (w, d)
    | none, r => r

/-- Whether an event is shown. -/
def passes (f : Filter) (e : Event) : Bool := (f.deciding? e).any fun (_, d) => d.shows e

/-- Directives joined by commas.  Without any, errors are shown. -/
def parse? (text : String) : Option Filter := do
  let words := ((Text.splitAt ',' text.toList).map String.ofList).filter (· != "")
  let directives ← words.mapM Directive.parse?
  return if directives.isEmpty then [⟨none, some .error⟩] else directives.filterMap id

/-- The level that a name asks for, where it is one. -/
def namedLevel? (name : String) : Option Level :=
  Level.all.find? fun l => l.name.toLower == name.toLower

/-- The filter used without directives: warnings, and the events of this program from
a level on. -/
def standard (level : Option String) (verbose : Bool) : Filter :=
  let level := (level.bind namedLevel?).getD (if verbose then .debug else .warn)
  [⟨some "stackprobe", some level⟩, ⟨none, some .warn⟩]

/-- The filter for given directives, if they can be read, and otherwise the standard
one. -/
def choose (directives level : Option String) (verbose : Bool) : Filter :=
  (directives.bind parse?).getD (standard level verbose)

end Filter

end StackPlaybook.Log
