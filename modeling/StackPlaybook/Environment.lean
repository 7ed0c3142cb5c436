import StackPlaybook.Log
import StackPlaybook.Moment
import StackPlaybook.Notice
import StackPlaybook.Text.Utf8

/-!
# StackPlaybook.Environment

What playing and running need of the world around them, as operations on a state.

`Clock` is all that the retry loop needs.  `Host` adds the calendar, programs and
files.  `Environment` adds what the user gets to see; a `Session` keeps that beside
the state of any host, so that nothing shown can act back on the host.
-/

namespace StackPlaybook

/-! ## Actions -/

/-- A computation on a state that may fail; what it did before failing stays done. -/
abbrev Act (σ α : Type) := ExceptT Error (StateM σ) α

namespace Act

variable {σ α : Type}

def ofExcept (x : Except Error α) : Act σ α := ExceptT.mk (pure x)

@[simp] theorem ofExcept_apply (x : Except Error α) (s : σ) :
    (ofExcept x : Act σ α) s = (x, s) := rfl

/-- An action that only changes the state. -/
def change (f : σ → σ) : Act σ Unit := fun s => (.ok (), f s)

/-- An action that reads the state. -/
def query (f : σ → α) : Act σ α := fun s => (.ok (f s), s)

@[simp] theorem change_apply (f : σ → σ) (s : σ) : change f s = (.ok (), f s) := rfl

/-- The second action is done on the state after the first, unless that one fails. -/
theorem bind_apply {β : Type} (a : Act σ α) (f : α → Act σ β) (s : σ) :
    (a >>= f) s = match a s with
      | (.ok x, s) => f x s
      | (.error e, s) => (.error e, s) := by
  change ExceptT.bindCont f (a s).1 (a s).2 = _
  obtain ⟨x | e, s'⟩ := a s <;> rfl

/-- A function of the answer leaves the state to the action. -/
theorem map_apply {β : Type} (f : α → β) (a : Act σ α) (s : σ) :
    (f <$> a) s = ((a s).1.map f, (a s).2) := by
  rw [map_eq_pure_bind, bind_apply]
  obtain ⟨x | e, s'⟩ := a s <;> rfl

@[simp] theorem pure_apply (x : α) (s : σ) : (pure x : Act σ α) s = (.ok x, s) := rfl

end Act

/-! ## Hosts -/

/-- A clock that reads in nanoseconds and can be waited on. -/
class Clock (σ : Type) where
  now : σ → Nat
  sleep : Duration → σ → σ

/-- How a program ended: its exit code, if it was not killed, and what it wrote. -/
structure Finished where
  code : Option Nat
  stdout : Bytes
  stderr : Bytes
  deriving DecidableEq, Repr

/-- An exit code as it is shown: `Some(3)`, or `None` for a killed program. -/
def exitText : Option Nat → String
  | some n => "Some(" ++ toString n ++ ")"
  | none => "None"

namespace Finished

def success (f : Finished) : Bool := f.code == some 0

end Finished

/-- The host that programs run on.  A program that cannot be started, and a file that
cannot be read, gives the text of the reason. -/
class Host (ω : Type) extends Clock ω where
  today : ω → Moment
  spawn : (program : String) → (args : List String) → ω → Except String Finished × ω
  readFile : (path : String) → ω → Except String Bytes × ω
  fileExists : (path : String) → ω → Bool
  getVariable : (name : String) → ω → Option String
  /-- The directory of the user's configuration files. -/
  configHome : ω → String

/-- A host, and what is reported while it is used. -/
class Environment (σ : Type) extends Host σ where
  display : Notice → σ → σ
  log : Log.Event → σ → σ

namespace Environment

variable {σ : Type} [Environment σ]

/-- Logs several events in order. -/
def logAll (events : List Log.Event) (s : σ) : σ := events.foldl (fun s e => log e s) s

end Environment

/-! ## Sessions -/

/-- The state of a host with all that was shown and logged so far. -/
structure Session (ω : Type) where
  host : ω
  notices : List Notice
  journal : List Log.Event

namespace Session

variable {ω : Type}

def start (host : ω) : Session ω := ⟨host, [], []⟩

/-- Everything printed so far. -/
def stdout (s : Session ω) (colours : Bool) : String := Notice.renderAll colours s.notices

/-- The session after an operation of its host. -/
def onHost {α : Type} (f : ω → α × ω) (s : Session ω) : α × Session ω :=
  let (a, host) := f s.host
  (a, { s with host })

instance [Host ω] : Environment (Session ω) where
  now s := Clock.now s.host
  sleep d s := { s with host := Clock.sleep d s.host }
  today s := Host.today s.host
  spawn program args s := s.onHost (Host.spawn program args)
  readFile path s := s.onHost (Host.readFile path)
  fileExists path s := Host.fileExists path s.host
  getVariable name s := Host.getVariable name s.host
  configHome s := Host.configHome s.host
  display n s := { s with notices := s.notices ++ [n] }
  log e s := { s with journal := s.journal ++ [e] }

end Session

/-! ## Reading text -/

/-- A file that should hold UTF-8 text, with the reason where it cannot be had. -/
def readText {σ : Type} [Host σ] (path : String) : Act σ String := fun s =>
  match Host.readFile path s with
  | (.error reason, s) => (.error (.fileRead path reason), s)
  | (.ok bytes, s) =>
    match bytes.decode? with
    | some text => (.ok text, s)
    | none => (.error (.fileRead path "stream did not contain valid UTF-8"), s)

end StackPlaybook
