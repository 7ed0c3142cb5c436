import StackPlaybook.Proofs.Play.Simulation

/-!
# StackPlaybook.Proofs.Play.Chronicle

Plays that keep a record.  The state is put beside a list of entries, and every attempt
and every event adds one: an attempt with the scene and the state that it was made in.
Keeping the record does not change the play:

* `recording_simulation` — a recorded play simulates the play itself;
* `result_recordingWithin` — so both end alike.
-/

namespace StackPlaybook

variable {S τ σ : Type}

/-! ## Entries -/

/-- One attempt of a play: at the scene at a position, as it was then, in a state. -/
structure Attempt (S σ : Type) where
  position : Nat
  scene : S
  before : σ

namespace Attempt

variable [Playable S σ]

/-- What the attempt answered. -/
def answer (registry : Registry) (a : Attempt S σ) : Except Error Outcome :=
  (Playable.attempt registry a.scene a.before).1.1

/-- The scene as the attempt left it. -/
def after (registry : Registry) (a : Attempt S σ) : S :=
  (Playable.attempt registry a.scene a.before).1.2

end Attempt

/-- The step that an event is about. -/
def StepEvent.step : StepEvent → StepInfo
  | .started step => step
  | .attemptFailed step _ _ => step
  | .asked step _ _ => step
  | .finished step _ _ => step

/-- What the record of a play holds, in the order in which it happened. -/
inductive Entry (S σ : Type) where
  | attempt (a : Attempt S σ)
  | event (e : StepEvent)

namespace Entry

def attempt? : Entry S σ → Option (Attempt S σ)
  | .attempt a => some a
  | .event _ => none

/-- The position of the scene that the entry is about. -/
def position : Entry S σ → Nat
  | .attempt a => a.position
  | .event e => e.step.position

/-- The attempts in a record are among its entries. -/
theorem mem_of_attempt {entries : List (Entry S σ)} {a : Attempt S σ}
    (h : a ∈ entries.filterMap attempt?) : .attempt a ∈ entries := by
  obtain ⟨entry, hentry, ha⟩ := List.mem_filterMap.mp h
  cases entry with
  | attempt b => obtain rfl := Option.some.inj ha; exact hentry
  | event e => cases ha

/-- An event adds no attempt to a record. -/
theorem attempt_mem_cons_event {e : StepEvent} {a : Attempt S σ} {entries : List (Entry S σ)} :
    .attempt a ∈ (.event e :: entries : List (Entry S σ)) ↔ .attempt a ∈ entries := by
  rw [List.mem_cons, or_iff_right nofun]

/-- The attempts in a record: the position of the scene, with what was answered. -/
def answers [Playable S σ] (registry : Registry) (entries : List (Entry S σ)) :
    List (Nat × Except Error Outcome) :=
  (entries.filterMap attempt?).map fun a => (a.position, a.answer registry)

@[simp] theorem answers_append [Playable S σ] (registry : Registry)
    (entries more : List (Entry S σ)) :
    answers registry (entries ++ more) = answers registry entries ++ answers registry more := by
  rw [answers, List.filterMap_append, List.map_append]
  rfl

end Entry

/-! ## Recorded plays -/

/-- A state with the record of what happened so far. -/
structure Recorded (S σ : Type) where
  state : σ
  entries : List (Entry S σ)

/-- A scene that knows its position. -/
structure Placed (S : Type) where
  position : Nat
  scene : S

/-- Scenes with their positions, counted from `position`. -/
def place (position : Nat) : List S → List (Placed S)
  | [] => []
  | scene :: rest => ⟨position, scene⟩ :: place (position + 1) rest

instance [Clock σ] : Clock (Recorded S σ) where
  now r := Clock.now r.state
  sleep d r := { r with state := Clock.sleep d r.state }

instance [Playable S σ] : Playable (Placed S) (Recorded S σ) where
  label q := Playable.label q.scene
  attempt registry q r :=
    let ((result, scene), s) := Playable.attempt registry q.scene r.state
    ((result, ⟨q.position, scene⟩), ⟨s, r.entries ++ [.attempt ⟨q.position, q.scene, r.state⟩]⟩)

namespace Pacing

/-- The same pacing, with a record of all events. -/
def recording (p : Pacing τ σ) : Pacing τ (Recorded S σ) :=
  ⟨p.interval, p.timer, fun e r => ⟨p.observe e r.state, r.entries ++ [.event e]⟩⟩

variable [Clock σ] [Playable S σ]

/-- What happens in a play. -/
def chronicle [FiniteTimer τ] (p : Pacing τ σ) (registry : Registry) (scenes : List S) (s : σ) :
    List (Entry S σ) :=
  (p.recording.play registry (place 1 scenes) ⟨s, []⟩).2.entries

/-- What happens in a play under a limit. -/
def chronicleWithin [Timer τ] (n : Nat) (p : Pacing τ σ) (registry : Registry) (scenes : List S)
    (s : σ) : List (Entry S σ) :=
  (p.recording.playWithin n registry (place 1 scenes) ⟨s, []⟩).2.entries

/-! ## The record changes nothing -/

/-- A recorded play does what the play does: the scenes know their positions besides, and the
states have their records. -/
theorem recording_simulation (p : Pacing τ σ) (registry : Registry) :
    Simulation p.recording p registry (fun (q : Placed S) (scene : S) => q.scene = scene)
      (fun (r : Recorded S σ) (s : σ) => r.state = s) where
  interval := rfl
  timer := rfl
  now h := by subst h; rfl
  sleep _ h := by subst h; rfl
  observe _ h := by subst h; rfl
  label h := by subst h; rfl
  attempt hq hr := by subst hq hr; exact ⟨rfl, rfl, rfl⟩

omit [Playable S σ] [Clock σ] in
/-- Scenes with their positions are the scenes. -/
theorem forall₂_place (position : Nat) (scenes : List S) :
    List.Forall₂ (fun (q : Placed S) scene => q.scene = scene) (place position scenes) scenes := by
  induction scenes generalizing position with
  | nil => exact .nil
  | cons scene rest ih => exact .cons rfl (ih (position + 1))

omit [Playable S σ] [Clock σ] in
@[simp] theorem length_place (position : Nat) (scenes : List S) :
    (place position scenes).length = scenes.length := (forall₂_place position scenes).length_eq

/-- A recorded play ends as the play does. -/
theorem result_recordingWithin [Timer τ] (n : Nat) (p : Pacing τ σ) (registry : Registry)
    (scenes : List S) (s : σ) :
    (p.recording.playWithin n registry (place 1 scenes) ⟨s, []⟩).1.1 =
      (p.playWithin n registry scenes s).1.1 :=
  ((p.recording_simulation registry).playWithin n (forall₂_place 1 scenes) rfl).answer

/-- It leaves the state as the play does. -/
theorem state_recordingWithin [Timer τ] (n : Nat) (p : Pacing τ σ) (registry : Registry)
    (scenes : List S) (s : σ) :
    (p.recording.playWithin n registry (place 1 scenes) ⟨s, []⟩).2.state =
      (p.playWithin n registry scenes s).2 :=
  ((p.recording_simulation registry).playWithin n (forall₂_place 1 scenes) rfl).state

/-- Where no limit is met, the record is that of the play. -/
theorem chronicleWithin_eq [FiniteTimer τ] (p : Pacing τ σ) (registry : Registry) {n : Nat}
    (scenes : List S) (s : σ)
    (hn : ∀ position ≤ scenes.length, FiniteTimer.budget (p.timer position) ≤ n) :
    p.chronicleWithin n registry scenes s = p.chronicle registry scenes s := by
  unfold chronicleWithin chronicle
  rw [playWithin_eq]
  · rfl
  · rw [length_place]
    exact hn

end Pacing

end StackPlaybook
