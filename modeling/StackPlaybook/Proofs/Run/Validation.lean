import StackPlaybook.Proofs.Run.Deeds
import StackPlaybook.Proofs.Run.Steps

/-!
# StackPlaybook.Proofs.Run.Validation

A playbook file is checked before anything else is done.

* `Refused` — the files that are refused, with the error: for bad steps, that of the first.
* `Proceedings` — what is done about any other file, in order: the stack is loaded, and only
  if that succeeds are the steps played.
* `validated_runFile` — every run is one or the other, and a refused file is read, and
  nothing more.
-/

namespace StackPlaybook

variable {σ : Type}

/-! ## Files -/

/-- What is wrong with a step, as the text that follows its number. -/
def Error.detail : Error → String
  | .config message => message
  | e => e.message

theorem complaint_eq (position : Nat) (e : Error) :
    PlaybookStep.complaint position e =
      .config ("Step " ++ toString position ++ ": " ++ e.detail) := by
  cases e <;> rfl

/-- The files that are refused, by what reading them gave, and with which error. -/
inductive Refused (path : String) (given : Except String Bytes) : Error → Prop
  | unreadable {e : Error} (text : textOf path given = .error e) : Refused path given e
  | malformed {document : String} (text : textOf path given = .ok document)
      (parsed : PlaybookFile.parse? document = none) :
      Refused path given
        (.configParse ("Failed to parse playbook '" ++ path ++ "': " ++ Error.unreadable))
  | badStep {document : String} {file : PlaybookFile} {i : Nat} {e : Error}
      (text : textOf path given = .ok document)
      (parsed : PlaybookFile.parse? document = some file)
      (first : PlaybookStep.FirstFlaw file.steps i e) :
      Refused path given (.config ("Step " ++ toString (i + 1) ++ ": " ++ e.detail))

/-- The files that are accepted, by what reading them gave. -/
structure Accepted (path : String) (given : Except String Bytes) (file : PlaybookFile) : Prop where
  parsed : ∃ document, textOf path given = .ok document ∧ PlaybookFile.parse? document = some file
  sound : ∀ step ∈ file.steps, step.flaw? = none

/-- Every file is refused or accepted. -/
theorem refused_or_accepted (path : String) (given : Except String Bytes) :
    (∃ e, Refused path given e) ∨ ∃ file, Accepted path given file := by
  cases htext : textOf path given with
  | error e => exact .inl ⟨e, .unreadable htext⟩
  | ok document =>
      cases hparsed : PlaybookFile.parse? document with
      | none => exact .inl ⟨_, .malformed htext hparsed⟩
      | some file =>
          obtain hsound | ⟨i, e, hfirst⟩ := PlaybookStep.sound_or_firstFlaw file.steps
          · exact .inr ⟨file, ⟨document, htext, hparsed⟩, hsound⟩
          · exact .inl ⟨_, .badStep htext hparsed hfirst⟩

section Check

variable [Environment σ] (settings : Settings) (verbose : Bool) {path : String} {s : σ}

theorem parse_of_some (path : String) {document : String} {file : PlaybookFile}
    (h : PlaybookFile.parse? document = some file) :
    PlaybookFile.parse path document = .ok file := by
  rw [PlaybookFile.parse, h]

/-- A refused file is read, and that is all. -/
theorem runFile_of_refused {e : Error} (h : Refused path (Host.readFile path s).1 e) :
    runFile settings verbose path s = (.error e, (Host.readFile path s).2) := by
  simp only [runFile, Act.bind_apply, readText_apply]
  cases h with
  | unreadable text => rw [text]
  | malformed text parsed =>
      rw [text]
      simp only [Act.ofExcept_apply, PlaybookFile.parse, parsed]
  | @badStep document file i e text parsed first =>
      have hscenes : (file.scenes verbose : Except Error (List (Scene σ))) = _ :=
        PlaybookStep.scenesFrom_of_firstFlaw verbose first 1
      rw [text]
      simp only [Act.ofExcept_apply, parse_of_some path parsed, hscenes, complaint_eq]

/-- An accepted file is performed with the scenes of its steps. -/
theorem runFile_of_accepted {file : PlaybookFile}
    (h : Accepted path (Host.readFile path s).1 file) {scenes : List (Scene σ)}
    (hscenes : file.scenes verbose = .ok scenes) :
    runFile settings verbose path s =
      let x := file.perform settings verbose (Path.folder path) scenes (Host.readFile path s).2
      (.ok x.1, x.2) := by
  obtain ⟨document, htext, hparsed⟩ := h.parsed
  simp only [runFile, Act.bind_apply, readText_apply]
  rw [htext]
  simp only [Act.ofExcept_apply, parse_of_some path hparsed, hscenes]

end Check

/-! ## Deeds of steps -/

/-- The deeds that a step may do: running a command, waiting and showing. -/
def Deed.OfStep : Deed → Prop
  | .spawn program args _ => program = "sh" ∧ ∃ command, args = ["-c", command]
  | .sleep _ | .display _ => True
  | .read .. => False

/-- A state with deeds of steps, after those done before, beside the state alone. -/
def Follows (start : List Deed) (w : Traced σ) (s : σ) : Prop :=
  w.state = s ∧ ∃ more, w.deeds = start ++ more ∧ ∀ d ∈ more, d.OfStep

/-- Another deed of a step may follow. -/
theorem Follows.add {start : List Deed} {w : Traced σ} {s : σ} (h : Follows start w s) (t : σ)
    {d : Deed} (hd : d.OfStep) : Follows start ⟨t, w.deeds ++ [d]⟩ t := by
  obtain ⟨-, more, hmore, hall⟩ := h
  refine ⟨rfl, more ++ [d], by rw [hmore, List.append_assoc], fun x hx => ?_⟩
  obtain hx | hx := List.mem_append.mp hx
  · exact hall x hx
  · rw [List.mem_singleton.mp hx]
    exact hd

/-- A state that keeps its deeds is played like the state alone, and steps add only deeds of
steps. -/
theorem kin_follows [Environment σ] (start : List Deed) (verbose : Bool) :
    Kin (Follows start : Traced σ → σ → Prop) verbose verbose where
  now h := by rw [← h.1]; rfl
  sleep d h := by
    obtain ⟨rfl, hmore⟩ := h
    exact Follows.add ⟨rfl, hmore⟩ _ trivial
  shell command w s h := by
    obtain ⟨rfl, hmore⟩ := h
    exact ⟨rfl, Follows.add ⟨rfl, hmore⟩ _ ⟨rfl, command, rfl⟩⟩
  log e h := by
    obtain ⟨rfl, hmore⟩ := h
    exact ⟨rfl, hmore⟩
  display _ h := by
    obtain ⟨rfl, hmore⟩ := h
    exact Follows.add ⟨rfl, hmore⟩ _ trivial
  detail _ h := by
    obtain ⟨rfl, hmore⟩ := h
    cases verbose with
    | false => exact ⟨rfl, hmore⟩
    | true => exact Follows.add ⟨rfl, hmore⟩ _ trivial

/-! ## Proceedings -/

/-- What may be done about a file that was accepted, after it was read, and how it is
reported: the stack is loaded first, and the steps are played if that succeeds. -/
inductive Proceedings (file : PlaybookFile) (settings : Settings) (folder : String) :
    List Deed → RunReport → Prop
  | unloaded {loading : List Deed} {e : Error}
      (load : Loading file settings folder loading (.error e)) :
      Proceedings file settings folder
        (file.opening.map .display ++ loading ++ [.display (.loadFailed e)])
        (file.report (some e))
  | played {loading playing : List Deed} {registry : Registry} (failure : Option Error)
      (load : Loading file settings folder loading (.ok registry))
      (steps : ∀ d ∈ playing, d.OfStep) :
      Proceedings file settings folder
        (file.opening.map .display ++ loading ++
          [.display (.loaded registry.stackName registry.region registry.resources.length),
            .display .steps] ++
          playing ++ [.display (if failure.isNone then .passed else .failed)])
        (file.report failure)

section Run

variable [Environment σ] (settings : Settings) (verbose : Bool)

theorem foldl_display (notices : List Notice) (w : Traced σ) :
    notices.foldl (fun w n => Environment.display n w) w =
      ⟨notices.foldl (fun s n => Environment.display n s) w.state,
        w.deeds ++ notices.map .display⟩ := by
  induction notices generalizing w with
  | nil => simp
  | cons n notices ih =>
      rw [List.foldl_cons, ih]
      simp [Environment.display]

/-- Playing the scenes of steps adds deeds of steps, between what is shown before and
after. -/
theorem traced_playScenes (file : PlaybookFile) {scenes : List (Scene σ)}
    {scenes' : List (Scene (Traced σ))}
    (hscenes : List.Forall₂ (Twin verbose verbose) scenes' scenes) (registry : Registry)
    (w : Traced σ) :
    let x := file.playScenes settings verbose scenes registry w.state
    ∃ playing failure, x.1 = file.report failure ∧ (∀ d ∈ playing, d.OfStep) ∧
      file.playScenes settings verbose scenes' registry w =
        (x.1, ⟨x.2, w.deeds ++
          [.display (.loaded registry.stackName registry.region registry.resources.length),
            .display .steps] ++
          playing ++ [.display (if failure.isNone then .passed else .failed)]⟩) := by
  intro x
  let loaded : Notice :=
    .loaded registry.stackName registry.region registry.resources.length
  let start := w.deeds ++ [.display loaded, .display .steps]
  let t := Environment.display .steps (Environment.display loaded w.state)
  have hstart : Environment.display .steps (Environment.display loaded w) = ⟨t, start⟩ := by
    simp [start, t, Environment.display]
  have hfollows : Follows start (⟨t, start⟩ : Traced σ) t :=
    ⟨rfl, [], (List.append_nil _).symm, fun d hd => absurd hd List.not_mem_nil⟩
  obtain ⟨answer, next', next, u', u, hplay', hplay, -, hsame, playing, hmore, hsteps⟩ :=
    (((kin_follows start verbose).simulation file settings registry).play hscenes hfollows).inv
  simp only [x, PlaybookFile.playScenes]
  rw [hplay, hstart, hplay']
  subst hsame
  cases answer with
  | ok v =>
      refine ⟨playing, none, rfl, hsteps, ?_⟩
      simp only [Environment.display, hmore]
      rfl
  | error e =>
      refine ⟨playing, some e, rfl, hsteps, ?_⟩
      simp only [Environment.display, hmore]
      rfl

/-- What is done about an accepted file. -/
theorem traced_perform (file : PlaybookFile) (folder : String) {scenes : List (Scene σ)}
    {scenes' : List (Scene (Traced σ))}
    (hscenes : List.Forall₂ (Twin verbose verbose) scenes' scenes) (w : Traced σ) :
    let x := file.perform settings verbose folder scenes w.state
    ∃ deeds, Proceedings file settings folder deeds x.1 ∧
      file.perform settings verbose folder scenes' w = (x.1, ⟨x.2, w.deeds ++ deeds⟩) := by
  intro x
  simp only [x, PlaybookFile.perform, foldl_display]
  generalize file.opening.foldl (fun s n => Environment.display n s) w.state = s
  obtain ⟨loading, hrun, hloading⟩ := traces_loadRegistry file settings folder
    (⟨s, w.deeds ++ file.opening.map .display⟩ : Traced σ)
  rw [hrun]
  simp only at hloading ⊢
  generalize file.loadRegistry settings folder s = loaded at hloading ⊢
  obtain ⟨e | registry, t⟩ := loaded
  · refine ⟨_, .unloaded hloading, ?_⟩
    simp [Environment.display]
  · obtain ⟨playing, failure, hreport, hsteps, hplay⟩ := traced_playScenes settings verbose file
      hscenes registry ⟨t, w.deeds ++ file.opening.map .display ++ loading⟩
    simp only at hreport hplay ⊢
    rw [hplay, hreport]
    refine ⟨_, .played failure hloading hsteps, ?_⟩
    simp

/-- What is done about an accepted file, beside the run itself. -/
theorem traced_runFile {path : String} {s : σ} {file : PlaybookFile}
    (h : Accepted path (Host.readFile path s).1 file) :
    ∃ report t deeds, Proceedings file settings (Path.folder path) deeds report ∧
      runFile settings verbose path s = (.ok report, t) ∧
      runFile settings verbose path (⟨s, []⟩ : Traced σ) =
        (.ok report, ⟨t, .read path (Host.readFile path s).1 :: deeds⟩) := by
  obtain ⟨scenes', scenes, hscenes', hscenes, htwins⟩ :=
    @PlaybookStep.scenesFrom_of_sound (Traced σ) σ verbose verbose file.steps h.sound 1
  obtain ⟨deeds, hproceedings, hperform⟩ := traced_perform settings verbose file (Path.folder path)
    htwins ⟨(Host.readFile path s).2, [.read path (Host.readFile path s).1]⟩
  refine ⟨_, _, deeds, hproceedings, runFile_of_accepted settings verbose h hscenes, ?_⟩
  have haccepted : Accepted path (Host.readFile path (⟨s, []⟩ : Traced σ)).1 file := h
  rw [runFile_of_accepted settings verbose haccepted hscenes']
  exact congrArg (fun x => (Except.ok x.1, x.2)) hperform

/-- **Runs are validated**, in any environment and whatever it answers.  A run is refused
with an error just if its file is: then the file was read, and nothing else was done or
shown.  Any other file is performed: its stack is asked for at most once and before all of
its steps, and no step is played unless that gave a registry. -/
theorem validated_runFile (path : String) (s : σ) :
    let given := (Host.readFile path s).1
    let run := runFile settings verbose path (⟨s, []⟩ : Traced σ)
    runFile settings verbose path s = (run.1, run.2.state) ∧
      (∀ e, run.1 = .error e ↔ Refused path given e) ∧
      (∀ e, run.1 = .error e → run.2 = ⟨(Host.readFile path s).2, [.read path given]⟩) ∧
      ∀ report, run.1 = .ok report → ∃ file deeds, Accepted path given file ∧
        run.2.deeds = .read path given :: deeds ∧
        Proceedings file settings (Path.folder path) deeds report := by
  intro given run
  have hrefuse : ∀ e, Refused path given e →
      run = (.error e, ⟨(Host.readFile path s).2, [.read path given]⟩) := fun e he =>
    runFile_of_refused settings verbose (s := (⟨s, []⟩ : Traced σ)) he
  obtain ⟨e, hrefused⟩ | ⟨file, haccepted⟩ := refused_or_accepted path given
  · rw [hrefuse e hrefused]
    refine ⟨runFile_of_refused settings verbose hrefused, fun f => ⟨fun heq => ?_, fun hf => ?_⟩,
      fun _ _ => rfl, fun report heq => (by cases heq)⟩
    · exact Except.error.inj heq ▸ hrefused
    · have hsame := (hrefuse e hrefused).symm.trans (hrefuse f hf)
      exact congrArg Prod.fst hsame
  · obtain ⟨report, t, deeds, hproceedings, hrun, htraced⟩ :=
      traced_runFile settings verbose haccepted
    have hok : run = (.ok report, ⟨t, .read path given :: deeds⟩) := htraced
    rw [hok]
    refine ⟨hrun, fun f => ⟨fun heq => (by cases heq), fun hf => ?_⟩, fun f heq => (by cases heq),
      fun report' heq => ?_⟩
    · have hsame := hok.symm.trans (hrefuse f hf)
      cases congrArg Prod.fst hsame
    · obtain rfl := Except.ok.inj heq
      exact ⟨file, deeds, haccepted, rfl, hproceedings⟩

end Run

end StackPlaybook
