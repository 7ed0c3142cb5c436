import StackPlaybook.Playbook.Run

/-!
# StackPlaybook.Proofs.Run.Deeds

What a run does to the world: the files it reads, the programs it runs, the waits, and what
it shows, each with what came back.  The state is put beside the list of deeds, and what
loading a stack adds to the list is told from the file and the answers alone
(`traces_loadRegistry`).
-/

namespace StackPlaybook

variable {σ α : Type}

/-! ## Deeds -/

/-- One thing done, with what came back. -/
inductive Deed where
  | read (path : String) (given : Except String Bytes)
  | spawn (program : String) (args : List String) (given : Except String Finished)
  | sleep (d : Duration)
  | display (n : Notice)

/-- A state with the deeds so far. -/
structure Traced (σ : Type) where
  state : σ
  deeds : List Deed

/-- An operation that adds a deed, which may depend on what came back. -/
def Traced.adding (deed : α → Deed) (f : σ → α × σ) (w : Traced σ) : α × Traced σ :=
  let (x, s) := f w.state
  (x, ⟨s, w.deeds ++ [deed x]⟩)

instance [Environment σ] : Environment (Traced σ) where
  now w := Clock.now w.state
  sleep d w := ⟨Clock.sleep d w.state, w.deeds ++ [.sleep d]⟩
  today w := Host.today w.state
  spawn program args := Traced.adding (.spawn program args) (Host.spawn program args)
  readFile path := Traced.adding (.read path) (Host.readFile path)
  fileExists path w := Host.fileExists path w.state
  getVariable name w := Host.getVariable name w.state
  configHome w := Host.configHome w.state
  display n w := ⟨Environment.display n w.state, w.deeds ++ [.display n]⟩
  log e w := { w with state := Environment.log e w.state }

/-- Logging is no deed. -/
theorem Traced.logAll_eq [Environment σ] (events : List Log.Event) (w : Traced σ) :
    Environment.logAll events w = ⟨Environment.logAll events w.state, w.deeds⟩ := by
  unfold Environment.logAll
  induction events generalizing w with
  | nil => rfl
  | cons e events ih => exact ih (Environment.log e w)

/-! ## Operations and what they add -/

/-- The operation does to the state what the other operation does, and adds deeds such that
`P` holds of them and the answer. -/
def Traces (P : List Deed → Except Error α → Prop) (a' : Act (Traced σ) α) (a : Act σ α) : Prop :=
  ∀ w, ∃ deeds, a' w = ((a w.state).1, ⟨(a w.state).2, w.deeds ++ deeds⟩) ∧ P deeds (a w.state).1

/-! ## Reading files -/

/-- The text of a file, from what reading it gave. -/
def textOf (path : String) : Except String Bytes → Except Error String
  | .error reason => .error (.fileRead path reason)
  | .ok bytes =>
    match bytes.decode? with
    | some text => .ok text
    | none => .error (.fileRead path "stream did not contain valid UTF-8")

/-- Reading a text is reading the file and decoding it. -/
theorem readText_apply [Host σ] (path : String) (s : σ) :
    readText path s = (textOf path (Host.readFile path s).1, (Host.readFile path s).2) := by
  unfold readText textOf
  rcases Host.readFile path s with ⟨reason | bytes, t⟩
  · rfl
  · simp only
    cases bytes.decode? <;> rfl

/-! ## Describing a stack -/

namespace Describer

/-- What a program that was asked for a stack says about it. -/
def told (program stack region : String) : Except String Finished → Except Error StackDescription
  | .error reason => .error (.stackDescribe stack ("failed to run " ++ program ++ ": " ++ reason))
  | .ok finished =>
    if finished.success then StackDescription.parse finished.stdout.decodeLossy stack region
    else .error (refusal stack region finished.stderr.decodeLossy)

/-- What is logged of the question. -/
def question (program stack region : String) : Log.Event :=
  ⟨.debug, logTarget, "Describing stack",
    [("program", .text program), ("stack", .text stack), ("region", .text region)]⟩

/-- What is logged of the answer. -/
def heard (stack region : String) : Except String Finished → List Log.Event
  | .error _ => []
  | .ok finished =>
    if finished.success then
      StackDescription.skipped finished.stdout.decodeLossy stack region
    else [failureEvent finished.code finished.stderr.decodeLossy]

/-- How a describer is asked for a stack, and what it says. -/
inductive Asked (stack region : String) : Describer → Deed → Except Error StackDescription → Prop
  | file (path : String) (given : Except String Bytes) :
      Asked stack region (.file path) (.read path given)
        ((textOf path given).bind fun document => StackDescription.parse document stack region)
  | program (name : String) (given : Except String Finished) :
      Asked stack region (.program name) (.spawn name (arguments stack region) given)
        (told name stack region given)

variable [Environment σ]

theorem read_apply (stack region document : String) (s : σ) :
    read stack region document s =
      (StackDescription.parse document stack region,
        Environment.logAll (StackDescription.skipped document stack region) s) := rfl

/-- Asking a program logs the question, runs it once and logs what it answered. -/
theorem ask_apply (program stack region : String) (s : σ) :
    ask program stack region s =
      let x := Host.spawn program (arguments stack region)
        (Environment.log (question program stack region) s)
      (told program stack region x.1, Environment.logAll (heard stack region x.1) x.2) := by
  unfold ask
  rw [Act.bind_apply, Act.change_apply]
  simp only
  rw [Act.bind_apply]
  rw [← question]
  rcases Host.spawn program (arguments stack region) (Environment.log _ s) with ⟨reason | f, t⟩
  · rfl
  · simp only [told, heard]
    by_cases hsuccess : f.success = true
    · simp only [hsuccess, if_true]
      rfl
    · simp only [hsuccess]
      rfl

/-- A describer is asked once. -/
theorem traces_describe (stack region : String) (d : Describer) :
    Traces (fun deeds described => ∃ call, deeds = [call] ∧ d.Asked stack region call described)
      (d.describe stack region : Act (Traced σ) StackDescription) (d.describe stack region) := by
  cases d with
  | program name =>
      intro w
      simp only [describe, ask_apply, Traced.logAll_eq]
      exact ⟨_, rfl, _, rfl, .program name _⟩
  | file path =>
      intro w
      simp only [describe, Act.bind_apply, readText_apply]
      have hread : Host.readFile path w = Traced.adding (.read path) (Host.readFile path) w := rfl
      rw [hread, Traced.adding]
      rcases Host.readFile path w.state with ⟨given, t⟩
      have hasked := @Asked.file stack region path given
      simp only
      cases htext : textOf path given with
      | error e =>
          rw [htext] at hasked
          exact ⟨_, rfl, _, rfl, hasked⟩
      | ok document =>
          rw [htext] at hasked
          simp only [read_apply, Traced.logAll_eq]
          exact ⟨_, rfl, _, rfl, hasked⟩

end Describer

/-! ## Loading a stack -/

/-- How the describer that is chosen for a file may be asked for its stack, and which
registry comes of it. -/
inductive Described (file : PlaybookFile) (settings : Settings) (folder : String) (call : Deed)
    (result : Except Error Registry) : Prop
  | intro {describer : Describer} {described : Except Error StackDescription}
      (chosen : settings.stack.choose (file.stack.resourcesFile.map (Path.resolve folder)) =
        .ok describer)
      (asked : describer.Asked file.stack.name (file.stack.region.getD settings.stack.region) call
        described)
      (result_eq : described.bind (Registry.ofDescription file.stack.name
        (file.stack.region.getD settings.stack.region)) = result)

/-- How the stack of a file may be loaded: a describer is asked no more than once, and a
manifest is read only after the describer has given a registry. -/
inductive Loading (file : PlaybookFile) (settings : Settings) (folder : String) :
    List Deed → Except Error Registry → Prop
  | unchosen {e : Error}
      (chosen : settings.stack.choose (file.stack.resourcesFile.map (Path.resolve folder)) =
        .error e) :
      Loading file settings folder [] (.error e)
  | refused {call : Deed} {e : Error}
      (described : Described file settings folder call (.error e)) :
      Loading file settings folder [call] (.error e)
  | plain {call : Deed} {registry : Registry}
      (described : Described file settings folder call (.ok registry))
      (unmapped : file.stack.manifest = none) :
      Loading file settings folder [call] (.ok registry)
  | mapped {call : Deed} {registry : Registry} {path : String} (given : Except String Bytes)
      (described : Described file settings folder call (.ok registry))
      (manifest : file.stack.manifest = some path) :
      Loading file settings folder [call, .read (Path.resolve folder path) given]
        (((textOf (Path.resolve folder path) given).bind Manifest.parse).map
          registry.withManifest)

section Loading

variable [Environment σ]

/-- Loading a stack asks its describer once and reads the answer into a registry. -/
theorem traces_load (stack region : String) (d : Describer) :
    Traces (fun deeds result => ∃ call described, deeds = [call] ∧
        d.Asked stack region call described ∧
        described.bind (Registry.ofDescription stack region) = result)
      (Registry.load d stack region : Act (Traced σ) Registry) (Registry.load d stack region) := by
  intro w
  obtain ⟨deeds, hrun, call, rfl, hasked⟩ := Describer.traces_describe stack region d w
  simp only [Registry.load, Act.bind_apply, hrun]
  generalize d.describe stack region w.state = x at hasked ⊢
  rcases x with ⟨e | description, t⟩
  · exact ⟨_, rfl, call, _, rfl, hasked, rfl⟩
  · simp only [Act.ofExcept_apply]
    cases hregistry : Registry.ofDescription stack region description with
    | error e => exact ⟨_, rfl, call, _, rfl, hasked, hregistry⟩
    | ok registry => exact ⟨_, rfl, call, _, rfl, hasked, hregistry⟩

/-- Loading a manifest is reading its file and parsing it. -/
theorem manifest_load_apply [Host α] (path : String) (s : α) :
    Manifest.load path s =
      ((textOf path (Host.readFile path s).1).bind Manifest.parse, (Host.readFile path s).2) := by
  simp only [Manifest.load, Act.bind_apply, readText_apply]
  cases textOf path (Host.readFile path s).1 <;> rfl

/-- **Loading a stack** follows the rules. -/
theorem traces_loadRegistry (file : PlaybookFile) (settings : Settings) (folder : String) :
    Traces (Loading file settings folder)
      (file.loadRegistry settings folder : Act (Traced σ) Registry)
      (file.loadRegistry settings folder) := by
  intro w
  simp only [PlaybookFile.loadRegistry, Act.bind_apply, Act.ofExcept_apply]
  cases hchosen : settings.stack.choose (file.stack.resourcesFile.map (Path.resolve folder)) with
  | error e => exact ⟨[], by simp, .unchosen hchosen⟩
  | ok describer =>
      simp only
      obtain ⟨deeds, hrun, call, described, rfl, hasked, hresult⟩ := traces_load
        file.stack.name (file.stack.region.getD settings.stack.region) describer w
      have hdescribed := Described.intro hchosen hasked hresult
      rw [hrun]
      generalize Registry.load describer file.stack.name
        (file.stack.region.getD settings.stack.region) w.state = x at hdescribed ⊢
      rcases x with ⟨e | registry, t⟩
      · exact ⟨_, rfl, .refused hdescribed⟩
      · simp only
        cases hmanifest : file.stack.manifest with
        | none => exact ⟨_, rfl, .plain hdescribed hmanifest⟩
        | some path =>
            let given := (Host.readFile (Path.resolve folder path) t).1
            have hmapped := Loading.mapped given hdescribed hmanifest
            have hread :
                Host.readFile (Path.resolve folder path) (⟨t, w.deeds ++ [call]⟩ : Traced σ) =
                  (given, ⟨(Host.readFile (Path.resolve folder path) t).2,
                    w.deeds ++ [call] ++ [.read (Path.resolve folder path) given]⟩) := rfl
            simp only [Act.bind_apply, manifest_load_apply, hread]
            cases hparsed : (textOf (Path.resolve folder path) given).bind Manifest.parse with
            | error e =>
                rw [hparsed] at hmapped
                exact ⟨_, by rw [List.append_assoc]; rfl, hmapped⟩
            | ok manifest =>
                rw [hparsed] at hmapped
                exact ⟨_, by rw [List.append_assoc]; rfl, hmapped⟩

end Loading

end StackPlaybook
