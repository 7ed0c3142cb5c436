import StackPlaybook.Scene.Action
import StackPlaybook.Json.Tree

/-!
# StackPlaybook.Scene.Poll

Scenes that wait for something to become true.  An attempt looks once.  Errors are
retried unless they are fatal, and an empty answer means "not yet".

The waits for records and log lines read from a window whose start is fixed by the
first attempt that gets as far as reading.
-/

namespace StackPlaybook.Scene

variable {σ : Type} [Environment σ]

/-- An attempt whose errors are retried unless they are fatal. -/
def absorb (a : Act σ Outcome) : Act σ Outcome := fun s =>
  match a s with
  | (.ok outcome, s) => (.ok outcome, s)
  | (.error e, s) => (Outcome.retryUnlessFatal e, s)

/-! ## Free polls -/

/-- Asks a question of the user until the answer is yes. -/
structure Poll (σ : Type) where
  label : String
  check : Act σ Bool

def Poll.attempt (p : Poll σ) : Act σ Outcome := absorb (Outcome.ofBool <$> p.check)

/-! ## What is read -/

/-- The part of a source that is read: nothing before an instant, and at most so many
items. -/
structure Window where
  since : Moment
  limit : Nat
  deriving DecidableEq, Repr

/-- The start of a window that looks back from now, as far as the calendar allows;
where it does not reach back so far, the window starts now. -/
def windowStart (now : Moment) (lookback : Duration) : Moment := (now.before? lookback).getD now

def defaultLookback : Duration := .ofSecs 60

def defaultLimit : Nat := 20

/-- Asks a predicate about items in order, up to the first one that it accepts. -/
def anyItem {α : Type} (predicate : α → σ → Bool × σ) : List α → σ → Bool × σ
  | [], s => (false, s)
  | item :: items, s =>
    match predicate item s with
    | (true, s) => (true, s)
    | (false, s) => anyItem predicate items s

def pollTarget : String := "stackprobe::scenes::poll"

/-- What items that were read mean: pending if there are none, and otherwise done if
the predicate accepts one. -/
def judge {α : Type} (message field name : String) (predicate : α → σ → Bool × σ)
    (items : List α) : Act σ Outcome := fun s =>
  if items.isEmpty then (.ok .pending, s)
  else
    let (found, s) := anyItem predicate items s
    let s := Environment.log ⟨.debug, pollTarget, message,
      [(field, .text name), ("count", .number items.length),
       ("found", .text (if found then "true" else "false"))]⟩ s
    (.ok (.ofBool found), s)

/-- One look at what a target names: at a window that starts where it did at the first
look, and otherwise so long before now. -/
def lookOnce (registry : Registry) (target : Target) (since : Option Moment) (lookback : Duration)
    (limit : Nat) (look : String → Window → Act σ Outcome) (s : σ) :
    (Except Error Outcome × Option Moment) × σ :=
  match nameOf registry target s with
  | (.error e, s) => ((Outcome.retryUnlessFatal e, since), s)
  | (.ok name, s) =>
    let start := since.getD (windowStart (Host.today s) lookback)
    let (result, s) := absorb (look name ⟨start, limit⟩) s
    ((result, some start), s)

/-! ## Records -/

/-- A record of a table or stream. -/
structure Record where
  data : Bytes
  deriving DecidableEq, Repr

namespace Record

/-- The record as text, with U+FFFD for bytes that are no character. -/
def text (r : Record) : String := r.data.decodeLossy

/-- The record decoded as JSON. -/
def json (r : Record) : Except Error Json.Value :=
  match Json.Value.ofBytes? r.data with
  | some v => .ok v
  | none => .error .json

end Record

/-- Waits until a record satisfies a predicate. -/
structure WaitRecord (σ : Type) where
  fetch : (source : String) → Window → Act σ (List Record)
  source : Target
  lookback : Duration
  limit : Nat
  limit_pos : 0 < limit
  /-- The start of the window, once it is fixed. -/
  since : Option Moment
  predicate : Record → σ → Bool × σ

namespace WaitRecord

/-- A wait that reads at least one record at a time. -/
def new (fetch : (source : String) → Window → Act σ (List Record)) (source : Target)
    (lookback : Duration) (limit : Nat) (predicate : Record → σ → Bool × σ) :
    Except Error (WaitRecord σ) :=
  if h : 0 < limit then .ok ⟨fetch, source, lookback, limit, h, none, predicate⟩
  else .error (.config "record query limit must be at least 1")

omit [Environment σ] in
/-- A wait for records that is accepted is as it was given, with a limit and no start yet. -/
theorem exists_of_new {fetch : String → Window → Act σ (List Record)} {source : Target}
    {lookback : Duration} {limit : Nat} {predicate : Record → σ → Bool × σ} {w : WaitRecord σ}
    (h : new fetch source lookback limit predicate = .ok w) :
    ∃ hlimit, w = ⟨fetch, source, lookback, limit, hlimit, none, predicate⟩ := by
  unfold new at h
  split at h
  · next hlimit => exact ⟨hlimit, (Except.ok.inj h).symm⟩
  · cases h

def label (w : WaitRecord σ) : String := "Wait for record in " ++ w.source.text

/-- Reads and judges the records of a window. -/
def look (w : WaitRecord σ) (source : String) (window : Window) : Act σ Outcome := do
  let records ← w.fetch source window
  .change (Environment.log ⟨.trace, pollTarget, "Fetched records",
    [("source", .text source), ("count", .number records.length)]⟩)
  judge "Checked records" "source" source w.predicate records

def attempt (w : WaitRecord σ) (registry : Registry) (s : σ) :
    (Except Error Outcome × WaitRecord σ) × σ :=
  let ((result, since), s) :=
    lookOnce registry w.source w.since w.lookback w.limit w.look s
  ((result, { w with since }), s)

end WaitRecord

/-! ## Log lines -/

/-- A line of a function's log. -/
structure LogLine where
  text : String
  deriving DecidableEq, Repr

namespace LogLine

def contains (l : LogLine) (needle : String) : Bool := Text.contains l.text needle

/-- The line decoded as JSON. -/
def bind (l : LogLine) : Except Error Json.Value :=
  match Json.Value.parse? l.text with
  | some v => .ok v
  | none => .error .json

end LogLine

/-- Whether a text may be searched for: it is not empty and holds no quotes. -/
def searchable (filter : String) : Bool := filter != "" && !filter.toList.contains '"'

/-- Waits until a function logs a line that satisfies a predicate. -/
structure WaitLog (σ : Type) where
  search : (function : String) → (filter : Option String) → Window → Act σ (List LogLine)
  function : Target
  filter : Option String
  filter_searchable : ∀ f ∈ filter, searchable f = true
  lookback : Duration
  limit : Nat
  limit_pos : 0 < limit
  /-- The start of the window, once it is fixed. -/
  since : Option Moment
  predicate : LogLine → σ → Bool × σ

namespace WaitLog

/-- What is wrong with a text that may not be searched for. -/
def filterError (filter : String) : Error :=
  if filter = "" then .config "log filter must not be empty"
  else .config ("log filter must not contain quotes: " ++ filter)

/-- A wait that reads at least one page of the log at a time, and searches for a text
that may be searched for. -/
def new (search : (function : String) → (filter : Option String) → Window → Act σ (List LogLine))
    (function : Target) (filter : Option String) (lookback : Duration) (limit : Nat)
    (predicate : LogLine → σ → Bool × σ) : Except Error (WaitLog σ) :=
  if hl : 0 < limit then
    if hf : ∀ f ∈ filter, searchable f = true then
      .ok ⟨search, function, filter, hf, lookback, limit, hl, none, predicate⟩
    else
      .error (filterError (filter.getD ""))
  else .error (.config "log query limit must be at least 1")

omit [Environment σ] in
/-- A wait for log lines that is accepted is as it was given, with a good filter, a limit and no
start yet. -/
theorem exists_of_new {search : String → Option String → Window → Act σ (List LogLine)}
    {function : Target} {filter : Option String} {lookback : Duration} {limit : Nat}
    {predicate : LogLine → σ → Bool × σ} {w : WaitLog σ}
    (h : new search function filter lookback limit predicate = .ok w) :
    ∃ hfilter hlimit,
      w = ⟨search, function, filter, hfilter, lookback, limit, hlimit, none, predicate⟩ := by
  unfold new at h
  split at h
  · next hlimit =>
    split at h
    · next hfilter => exact ⟨hfilter, hlimit, (Except.ok.inj h).symm⟩
    · cases h
  · cases h

def label (w : WaitLog σ) : String :=
  "Wait for logs of " ++ w.function.text ++
    match w.filter with
    | some f => " matching \"" ++ f ++ "\""
    | none => ""

/-- Reads and judges the log lines of a window. -/
def look (w : WaitLog σ) (function : String) (window : Window) : Act σ Outcome := do
  let lines ← w.search function w.filter window
  judge "Checked log lines" "function" function w.predicate lines

def attempt (w : WaitLog σ) (registry : Registry) (s : σ) :
    (Except Error Outcome × WaitLog σ) × σ :=
  let ((result, since), s) :=
    lookOnce registry w.function w.since w.lookback w.limit w.look s
  ((result, { w with since }), s)

end WaitLog

end StackPlaybook.Scene
