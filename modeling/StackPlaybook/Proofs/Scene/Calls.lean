import StackPlaybook.Proofs.Play.Simulation
import StackPlaybook.Scene.Catalogue

/-!
# StackPlaybook.Proofs.Scene.Calls

The calls that a scene makes: of the user's code, of collaborators, of programs, and of
the clock.  The state is put beside a list of calls, and every collaborator of a scene is
replaced by one that adds its call.  Watching changes nothing: an attempt at a watched
scene is the attempt at the scene itself (`attempt_watched`).
-/

namespace StackPlaybook

open Scene

/-! ## Calls -/

/-- One call with what was passed and what came back. -/
inductive Call where
  | callback (answer : Except Error Unit)
  | publish (topicArn : String) (message : Bytes) (answer : Except Error String)
  | invoke (functionArn : String) (payload : Bytes) (answer : Except Error Bytes)
  | send (queue body : String) (answer : Except Error String)
  | put (stream : String) (data : Bytes) (answer : Except Error Unit)
  /-- A hook was handed a message ID. -/
  | hookId (id : String) (answer : Except Error Unit)
  /-- A hook was handed a response. -/
  | hookResponse (response : Bytes) (answer : Except Error Unit)
  | check (answer : Except Error Bool)
  | fetch (source : String) (window : Window) (answer : Except Error (List Record))
  | search (function : String) (filter : Option String) (window : Window)
    (answer : Except Error (List LogLine))
  | acceptsRecord (record : Record) (answer : Bool)
  | acceptsLine (line : LogLine) (answer : Bool)
  | spawn (program : String) (args : List String) (answer : Except String Finished)
  | sleep (d : Duration)

/-- A state with the calls made so far. -/
structure Watched (σ : Type) where
  state : σ
  calls : List Call

variable {σ α β : Type}

/-- An operation that adds a call, which may depend on what came back. -/
def watched (call : α → Call) (f : σ → α × σ) (w : Watched σ) : α × Watched σ :=
  let (x, s) := f w.state
  (x, ⟨s, w.calls ++ [call x]⟩)

/-- An operation that is no call. -/
def Watched.onState (f : σ → α × σ) (w : Watched σ) : α × Watched σ :=
  let (x, s) := f w.state
  (x, { w with state := s })

instance [Environment σ] : Environment (Watched σ) where
  now w := Clock.now w.state
  sleep d w := ⟨Clock.sleep d w.state, w.calls ++ [.sleep d]⟩
  today w := Host.today w.state
  spawn program args := watched (.spawn program args) (Host.spawn program args)
  readFile path := Watched.onState (Host.readFile path)
  fileExists path w := Host.fileExists path w.state
  getVariable name w := Host.getVariable name w.state
  configHome w := Host.configHome w.state
  display n w := { w with state := Environment.display n w.state }
  log e w := { w with state := Environment.log e w.state }

/-! ## Watched scenes -/

/-- A collaborator that adds its call. -/
def Act.watched (call : Except Error α → Call) (a : Act σ α) : Act (Watched σ) α :=
  StackPlaybook.watched call a

namespace Scene

/-- A hook that adds its call. -/
def watchedHook (call : α → Except Error Unit → Call) (hook : Option (α → Act σ Unit)) :
    Option (α → Act (Watched σ) Unit) :=
  hook.map fun f result => (f result).watched (call result)

/-- A wait for records with its collaborators watched. -/
def WaitRecord.watched (w : WaitRecord σ) : WaitRecord (Watched σ) where
  fetch source window := (w.fetch source window).watched (.fetch source window)
  source := w.source
  lookback := w.lookback
  limit := w.limit
  limit_pos := w.limit_pos
  since := w.since
  predicate record := StackPlaybook.watched (.acceptsRecord record) (w.predicate record)

/-- A wait for log lines with its collaborators watched. -/
def WaitLog.watched (w : WaitLog σ) : WaitLog (Watched σ) where
  search function filter window :=
    (w.search function filter window).watched (.search function filter window)
  function := w.function
  filter := w.filter
  filter_searchable := w.filter_searchable
  lookback := w.lookback
  limit := w.limit
  limit_pos := w.limit_pos
  since := w.since
  predicate line := StackPlaybook.watched (.acceptsLine line) (w.predicate line)

/-- The scene with all of its collaborators watched. -/
def watched : Scene σ → Scene (Watched σ)
  | .adLib a => .adLib ⟨a.label, a.callback.watched .callback⟩
  | .publish p =>
    .publish ⟨fun topic message => (p.publish topic message).watched (.publish topic message),
      p.topic, p.message, watchedHook .hookId p.hook⟩
  | .invoke i =>
    .invoke ⟨fun function payload => (i.invoke function payload).watched (.invoke function payload),
      i.function, i.payload, watchedHook .hookResponse i.hook⟩
  | .send m =>
    .send ⟨fun queue body => (m.send queue body).watched (.send queue body), m.queue, m.body,
      watchedHook .hookId m.hook⟩
  | .put p =>
    .put ⟨fun stream data => (p.put stream data).watched (.put stream data), p.stream, p.data⟩
  | .poll p => .poll ⟨p.label, p.check.watched .check⟩
  | .waitRecord w => .waitRecord w.watched
  | .waitLog w => .waitLog w.watched
  | .pause p => .pause p
  | .shell a => .shell a
  | .shellPoll p => .shellPoll p
  | .resolve r => .resolve r

variable [Environment σ]

/-- The calls of one attempt at a scene. -/
def calls (registry : Registry) (scene : Scene σ) (s : σ) : List Call :=
  (attempt registry scene.watched ⟨s, []⟩).2.calls

end Scene

/-! ## Watched operations are the operations themselves -/

/-- The operation on a watched state does to the state what the other operation does. -/
def Erases (f' : Watched σ → α × Watched σ) (f : σ → α × σ) : Prop :=
  ∀ w, ((f' w).1, (f' w).2.state) = f w.state

namespace Erases

/-- A watched operation erases to the operation it watches. -/
theorem watched (call : α → Call) (f : σ → α × σ) : Erases (StackPlaybook.watched call f) f :=
  fun _ => rfl

/-- Changes of the state erase when the states they leave agree. -/
theorem change {f' : Watched σ → Watched σ} {f : σ → σ} (h : ∀ w, (f' w).state = f w.state) :
    Erases (Act.change f') (Act.change f) := by
  intro w
  rw [Act.change_apply, Act.change_apply, h]

theorem ofExcept (x : Except Error α) :
    Erases (Act.ofExcept x : Act (Watched σ) α) (Act.ofExcept x : Act σ α) := fun _ => rfl

theorem pure (x : α) : Erases (Pure.pure x : Act (Watched σ) α) (Pure.pure x : Act σ α) :=
  fun _ => rfl

/-- Operations that erase can be put in sequence. -/
theorem bind {a' : Act (Watched σ) α} {a : Act σ α} {f' : α → Act (Watched σ) β}
    {f : α → Act σ β} (ha : Erases a' a) (hf : ∀ x, Erases (f' x) (f x)) :
    Erases (a' >>= f' : Act (Watched σ) β) (a >>= f : Act σ β) := by
  intro w
  have haw := ha w
  rw [Act.bind_apply, Act.bind_apply, ← haw]
  obtain ⟨x | e, w'⟩ := a' w
  · rfl
  · exact hf _ w'

/-! ### Parts of attempts -/

variable [Environment σ]

theorem log (e : Log.Event) :
    Erases (Act.change (Environment.log e) : Act (Watched σ) Unit)
      (Act.change (Environment.log e)) := change fun _ => rfl

/-- Logging is not watched, however many events there are. -/
theorem logAll (events : List Log.Event) :
    Erases (Act.change (Environment.logAll events) : Act (Watched σ) Unit)
      (Act.change (Environment.logAll events)) := by
  refine change fun w => ?_
  induction events generalizing w with
  | nil => rfl
  | cons e rest ih => exact ih (Environment.log e w)

theorem nameOf (registry : Registry) (target : Target) :
    Erases (Scene.nameOf registry target : Act (Watched σ) String) (Scene.nameOf registry target) :=
  bind (logAll _) fun _ => ofExcept _

theorem arnOf (registry : Registry) (target : Target) :
    Erases (Scene.arnOf registry target : Act (Watched σ) String) (Scene.arnOf registry target) :=
  bind (logAll _) fun _ => ofExcept _

/-- Rendering a template makes no calls to watch. -/
theorem renderText (registry : Registry) (t : Template) :
    Erases (Scene.renderText registry t : Act (Watched σ) String) (Scene.renderText registry t) :=
  bind (logAll _) fun _ => ofExcept _

/-- A shell command runs the same whether its start is recorded or not. -/
theorem runShell (command : String) :
    Erases (Scene.runShell command : Act (Watched σ) Ran) (Scene.runShell command) := fun _ => rfl

omit [Environment σ] in
/-- A hook is called on the same result whether it is watched or not, and so is no hook. -/
theorem callHook (call : α → Except Error Unit → Call) (hook : Option (α → Act σ Unit))
    (result : α) :
    Erases (Scene.callHook (watchedHook call hook) result) (Scene.callHook hook result) := by
  cases hook with
  | none => exact pure ()
  | some f => exact watched _ _

/-- An action erases when the target it resolves and the operation it carries out do. -/
theorem carryOut {ρ : Type} {resolve' : Act (Watched σ) ρ} {resolve : Act σ ρ}
    {operate' : ρ → Act (Watched σ) α} {operate : ρ → Act σ α} (hresolve : Erases resolve' resolve)
    (hoperate : ∀ r, Erases (operate' r) (operate r)) (event : ρ → α → Log.Event)
    (call : α → Except Error Unit → Call) (hook : Option (α → Act σ Unit)) :
    Erases (Scene.carryOut resolve' operate' event (watchedHook call hook))
      (Scene.carryOut resolve operate event hook) :=
  bind hresolve fun _ => bind (hoperate _) fun _ => bind (log _) fun _ =>
    bind (callHook call hook _) fun _ => pure _

omit [Environment σ] in
/-- Turning errors into retries keeps erasure. -/
theorem absorb {a' : Act (Watched σ) Outcome} {a : Act σ Outcome} (h : Erases a' a) :
    Erases (Scene.absorb a') (Scene.absorb a) := by
  intro w
  have hw := h w
  unfold Scene.absorb
  rw [← hw]
  obtain ⟨e | x, w'⟩ := a' w <;> rfl

omit [Environment σ] in
/-- A search erases by induction on its items: a watched predicate answers as the predicate does. -/
theorem anyItem (call : α → Bool → Call) (predicate : α → σ → Bool × σ) (items : List α) :
    Erases (Scene.anyItem (fun item => StackPlaybook.watched (call item) (predicate item)) items)
      (Scene.anyItem predicate items) := by
  intro w
  induction items generalizing w with
  | nil => rfl
  | cons item items ih =>
      simp only [Scene.anyItem, StackPlaybook.watched]
      obtain ⟨_ | _, s⟩ := predicate item w.state
      · exact ih _
      · rfl

/-- Judging what was read erases as the search does. -/
theorem judge (message field name : String) (call : α → Bool → Call)
    (predicate : α → σ → Bool × σ) (items : List α) :
    Erases (Scene.judge message field name
        (fun item => StackPlaybook.watched (call item) (predicate item)) items)
      (Scene.judge message field name predicate items) := by
  intro w
  have hany := anyItem call predicate items w
  unfold Scene.judge
  cases items.isEmpty with
  | true => rfl
  | false =>
      simp only [← hany]
      rfl

/-- One look erases when the reading it is given does, from the same start of the window. -/
theorem lookOnce (registry : Registry) (target : Target) (since : Option Moment)
    (lookback : Duration) (limit : Nat) {look' : String → Window → Act (Watched σ) Outcome}
    {look : String → Window → Act σ Outcome}
    (h : ∀ name window, Erases (look' name window) (look name window)) :
    Erases (Scene.lookOnce registry target since lookback limit look')
      (Scene.lookOnce registry target since lookback limit look) := by
  intro w
  have hname := nameOf registry target w
  unfold Scene.lookOnce
  rw [← hname]
  obtain ⟨e | name, w'⟩ := Scene.nameOf registry target w
  · rfl
  · have hlook := absorb
      (h name ⟨since.getD (windowStart (Host.today w'.state) lookback), limit⟩) w'
    simp only [← hlook]
    rfl

end Erases

/-! ## Watched scenes are the scenes themselves -/

namespace Scene

variable [Environment σ]

/-- A watched shell action is the shell action. -/
theorem erases_shellAction (a : ShellAction) (registry : Registry) :
    Erases (a.attempt registry : Act (Watched σ) Outcome) (a.attempt registry) := by
  refine .bind (.renderText registry a.command) fun command => .bind (.runShell command) fun ran =>
    .bind (.change fun w => ?_) fun _ => .ofExcept _
  unfold ShellAction.showOutput
  split <;> rfl

/-- A watched shell poll is the shell poll. -/
theorem erases_shellPoll (p : ShellPoll) (registry : Registry) :
    Erases (p.attempt registry : Act (Watched σ) Outcome) (p.attempt registry) :=
  .absorb (.bind (.renderText registry p.command) fun command => .bind (.runShell command)
    fun _ => .pure _)

/-- A resolve step has no collaborators to watch. -/
theorem erases_resolveStep (r : ResolveStep) (registry : Registry) :
    Erases (r.attempt registry : Act (Watched σ) Outcome) (r.attempt registry) := by
  refine .bind (.nameOf registry r.target) fun name => .bind (.arnOf registry r.target) fun arn =>
    .bind (.change fun w => ?_) fun _ => .pure _
  cases r.verbose <;> rfl

omit [Environment σ] in
/-- A poll with a watched check is the poll. -/
theorem erases_poll (p : Poll σ) :
    Erases (Poll.attempt ⟨p.label, p.check.watched .check⟩) p.attempt := by
  refine .absorb fun w => ?_
  rw [Act.map_apply, Act.map_apply]
  rfl

omit [Environment σ] in
/-- A scene that attempts leave as it is stays the watched scene beside the scene. -/
theorem alike_unchanged {a' : Act (Watched σ) Outcome} {a : Act σ Outcome} (scene : Scene σ)
    (h : Erases a' a) (w : Watched σ) :
    Alike (fun q' q => q' = q.watched) (fun w s => w.state = s) (unchanged scene.watched a' w)
      (unchanged scene a w.state) := by
  have hw := h w
  unfold unchanged
  rw [← hw]
  exact ⟨rfl, rfl, rfl⟩

omit [Environment σ] in
theorem erases_adLib (a : AdLib σ) :
    Erases (AdLib.attempt ⟨a.label, a.callback.watched .callback⟩) a.attempt :=
  .bind (.watched _ _) fun _ => .pure _

theorem erases_pause (p : Pause) :
    Erases (p.attempt : Act (Watched σ) Outcome) p.attempt :=
  .bind (.change fun _ => rfl) fun _ => .pure _

/-- A watched read of records is the read. -/
theorem WaitRecord.erases_look (q : WaitRecord σ) (source : String) (window : Window) :
    Erases (q.watched.look source window) (q.look source window) :=
  .bind (.watched _ _) fun records => .bind (.log _) fun _ =>
    .judge _ _ source .acceptsRecord q.predicate records

/-- A watched search of log lines is the search. -/
theorem WaitLog.erases_look (q : WaitLog σ) (function : String) (window : Window) :
    Erases (q.watched.look function window) (q.look function window) :=
  .bind (.watched _ _) fun lines => .judge _ _ function .acceptsLine q.predicate lines

/-- **Watching changes nothing** of an attempt: neither the answer nor what becomes of the
scene and the state. -/
theorem attempt_watched (registry : Registry) (scene : Scene σ) (w : Watched σ) :
    Alike (fun q' q => q' = q.watched) (fun w s => w.state = s)
      (attempt registry scene.watched w) (attempt registry scene w.state) := by
  cases scene with
  | adLib a => exact alike_unchanged (.adLib a) (erases_adLib a) w
  | publish p =>
      exact alike_unchanged (.publish p)
        (.carryOut (.arnOf registry p.topic) (fun _ => .watched _ _) _ _ p.hook) w
  | invoke i =>
      exact alike_unchanged (.invoke i)
        (.carryOut (.arnOf registry i.function) (fun _ => .watched _ _) _ _ i.hook) w
  | send m =>
      exact alike_unchanged (.send m)
        (.carryOut (.nameOf registry m.queue) (fun _ => .watched _ _) _ _ m.hook) w
  | put p =>
      exact alike_unchanged (.put p)
        (.carryOut (.nameOf registry p.stream) (fun _ => .watched _ _) _ (fun _ => .callback) none)
        w
  | poll p => exact alike_unchanged (.poll p) (erases_poll p) w
  | waitRecord q =>
      have hlook := Erases.lookOnce registry q.source q.since q.lookback q.limit q.erases_look w
      simp only [watched, attempt, WaitRecord.attempt, ← hlook]
      exact ⟨rfl, rfl, rfl⟩
  | waitLog q =>
      have hlook := Erases.lookOnce registry q.function q.since q.lookback q.limit q.erases_look w
      simp only [watched, attempt, WaitLog.attempt, ← hlook]
      exact ⟨rfl, rfl, rfl⟩
  | pause p => exact alike_unchanged (.pause p) (erases_pause p) w
  | shell a => exact alike_unchanged (.shell a) (erases_shellAction a registry) w
  | shellPoll p => exact alike_unchanged (.shellPoll p) (erases_shellPoll p registry) w
  | resolve r => exact alike_unchanged (.resolve r) (erases_resolveStep r registry) w

end Scene

end StackPlaybook
