import StackPlaybook.Cli
import StackPlaybook.Proofs.Play.Progress
import StackPlaybook.Proofs.Run.Validation

/-!
# StackPlaybook.Proofs.Run.Report

The report of a run tells its failures apart.

* `unattached_of_loading` — no failure to load a stack names a step.
* `conclusion_perform` — the two ways in which a run of an accepted file ends.
* `Truthful` — what a report and its run must agree on.
* `truthful_runFile` — every report of every run is truthful, down to the exit code.
-/

namespace StackPlaybook

variable {σ α β : Type}

/-! ## Failures that name no step -/

/-- If it is a failure, it names no step. -/
def Unattached (x : Except Error α) : Prop := ∀ e, x = .error e → e.step? = none

namespace Unattached

theorem ok (x : α) : Unattached (.ok x) := nofun

theorem error {e : Error} (h : e.step? = none) : Unattached (.error e : Except Error α) := by
  rintro f ⟨⟩
  exact h

theorem bind {x : Except Error α} {f : α → Except Error β} (hx : Unattached x)
    (hf : ∀ a, Unattached (f a)) : Unattached (x >>= f) := by
  cases x with
  | ok a => exact hf a
  | error e => exact error (hx e rfl)

theorem map {x : Except Error α} (hx : Unattached x) (f : α → β) : Unattached (x.map f) := by
  cases x with
  | ok a => exact ok (f a)
  | error e => exact error (hx e rfl)

theorem mapM {f : α → Except Error β} (hf : ∀ a, Unattached (f a)) (xs : List α) :
    Unattached (xs.mapM f) := by
  induction xs with
  | nil => exact ok []
  | cons x xs ih =>
      rw [List.mapM_cons]
      exact (hf x).bind fun y => ih.bind fun ys => ok (y :: ys)

/-- Neither an unreadable file nor one that is not text names a step. -/
theorem textOf (path : String) (given : Except String Bytes) :
    Unattached (StackPlaybook.textOf path given) := by
  cases given with
  | error reason => exact error rfl
  | ok bytes =>
      simp only [StackPlaybook.textOf]
      cases bytes.decode? with
      | none => exact error rfl
      | some text => exact ok text

/-- Settings that leave the describer without its file name no step. -/
theorem choose (settings : StackSettings) (resources : Option String) :
    Unattached (settings.choose resources) := by
  unfold StackSettings.choose
  split
  · exact ok _
  · exact ok _
  · exact ok _
  · exact error rfl

/-- A description that cannot be read names no step. -/
theorem description (document stack region : String) :
    Unattached (StackDescription.parse document stack region) := by
  unfold StackDescription.parse StackDescription.ofListing
  split
  · exact error rfl
  · split
    · exact error rfl
    · split
      · exact error rfl
      · exact ok _

/-- What the command line tool tells of a stack names no step, whichever way it fails. -/
theorem told (program stack region : String) (given : Except String Finished) :
    Unattached (Describer.told program stack region given) := by
  cases given with
  | error reason => exact error rfl
  | ok finished =>
      unfold Describer.told Describer.refusal
      simp only
      split
      · exact description _ _ _
      · split
        · exact error rfl
        · exact error rfl

/-- A malformed ARN names no step. -/
theorem arn (text : String) : Unattached (Arn.parse text) := by
  unfold Arn.parse
  split
  · exact ok _
  · exact error rfl

/-- Reading a description into a registry names no step. -/
theorem ofDescription (stack region : String) (d : StackDescription) :
    Unattached (Registry.ofDescription stack region d) := (arn d.stackId).bind fun _ => ok _

/-- A metadata entry without a logical ID names no step. -/
theorem idsOfEntries (path : String) (entries : List MetadataEntry) :
    Unattached (Manifest.idsOfEntries path entries) := by
  refine mapM (fun e => ?_) _
  split
  · exact ok _
  · exact error rfl

/-- An artifact is refused for its entries only. -/
theorem idsOfArtifact (stack : String) (artifact : Artifact) :
    Unattached (Manifest.idsOfArtifact stack artifact) := by
  refine (mapM (fun x => ?_) artifact).bind fun named => ok _
  obtain ⟨path, entries⟩ := x
  simp only
  cases Manifest.constructOf? stack path with
  | none => exact ok []
  | some construct => exact (idsOfEntries path entries).map _

/-- An assembly is refused for its artifacts only. -/
theorem ofAssembly (assembly : Assembly) : Unattached (Manifest.ofAssembly assembly) := by
  refine (mapM (fun x => ?_) assembly).bind fun tables => ok _
  exact (idsOfArtifact x.1 x.2).map _

/-- A refused manifest names no step. -/
theorem manifest (document : String) : Unattached (Manifest.parse document) := by
  unfold Manifest.parse
  cases Assembly.reader.run? document with
  | none => exact error rfl
  | some assembly => exact ofAssembly assembly

end Unattached

/-- A stack that cannot be loaded is no failure of a step. -/
theorem unattached_of_loading {file : PlaybookFile} {settings : Settings} {folder : String}
    {deeds : List Deed} {loaded : Except Error Registry}
    (h : Loading file settings folder deeds loaded) : Unattached loaded := by
  cases h with
  | unchosen chosen => exact .error (Unattached.choose _ _ _ chosen)
  | refused described =>
      obtain ⟨chosen, asked, result_eq⟩ := described
      cases asked with
      | file path given =>
          have hdocument := (Unattached.textOf path given).bind fun document =>
            Unattached.description document file.stack.name
              (file.stack.region.getD settings.stack.region)
          exact .error ((hdocument.bind (Unattached.ofDescription _ _)) _ result_eq)
      | program name given =>
          have htold := Unattached.told name file.stack.name
            (file.stack.region.getD settings.stack.region) given
          exact .error ((htold.bind (Unattached.ofDescription _ _)) _ result_eq)
  | plain described unmapped => exact .ok _
  | mapped given described manifest =>
      exact ((Unattached.textOf _ given).bind Unattached.manifest).map _

/-! ## Runs in parts -/

namespace PlaybookFile

variable [Environment σ] (file : PlaybookFile) (settings : Settings) (verbose : Bool)
  (folder : String) (scenes : List (Scene σ)) (s : σ)

/-- What loading the stack comes to, and the state after it. -/
def loading : Except Error Registry × σ :=
  file.loadRegistry settings folder
    (file.opening.foldl (fun s n => Environment.display n s) s)

/-- The record of the play of the steps against a registry. -/
def record (registry : Registry) : List (Entry (Scene σ) σ) :=
  let s := Environment.display
    (.loaded registry.stackName registry.region registry.resources.length)
    (file.loading settings folder s).2
  (file.pacing settings verbose).chronicle registry scenes (Environment.display .steps s)

/-- How a run may end: the stack is not loaded, or the steps are played. -/
inductive Conclusion : Option Error → Prop
  | unloaded {e : Error} (load : (file.loading settings folder s).1 = .error e)
      (named : e.step? = none) : Conclusion (some e)
  | played {registry : Registry} {result : Except Error Unit}
      (load : (file.loading settings folder s).1 = .ok registry)
      (progress : Progress registry scenes.length 1 scenes
        (file.record settings verbose folder scenes s registry) result) :
      Conclusion (failure? result)

/-- The report of a play is that of the failure its play ended with, if any. -/
theorem report_playScenes (registry : Registry) (t : σ) :
    (file.playScenes settings verbose scenes registry t).1 =
      file.report (failure? ((file.pacing settings verbose).play registry scenes
        (Environment.display .steps (Environment.display
          (.loaded registry.stackName registry.region registry.resources.length) t))).1.1) := by
  simp only [playScenes]
  rcases (file.pacing settings verbose).play registry scenes _ with ⟨⟨e | u, rest⟩, t⟩
  · rfl
  · rfl

/-- **How runs end**: the report of a run is that of a failure, and the failure is either one to
load the stack or the one the play of the steps came to. -/
theorem conclusion_perform :
    ∃ failure, (file.perform settings verbose folder scenes s).1 = file.report failure ∧
      file.Conclusion settings verbose folder scenes s failure := by
  obtain ⟨deeds, -, hloading⟩ := traces_loadRegistry file settings folder
    (⟨file.opening.foldl (fun s n => Environment.display n s) s, []⟩ : Traced σ)
  simp only [perform]
  rcases hload : file.loadRegistry settings folder
    (file.opening.foldl (fun s n => Environment.display n s) s) with ⟨e | registry, t⟩
  · simp only [hload] at hloading
    have hnamed := unattached_of_loading hloading e rfl
    exact ⟨some e, rfl, .unloaded (congrArg Prod.fst hload) hnamed⟩
  · have hprogress := progress_of_courses
      ((file.pacing settings verbose).courses_of_play registry scenes
        (Environment.display .steps (Environment.display
          (.loaded registry.stackName registry.region registry.resources.length) t))) rfl
    refine ⟨_, report_playScenes file settings verbose scenes registry t,
      .played (congrArg Prod.fst hload) ?_⟩
    rw [record, loading, hload]
    exact hprogress

end PlaybookFile

/-! ## Reports -/

/-- The first scene that is not completed. -/
structure FirstIncomplete {S : Type} [Playable S σ] (registry : Registry)
    (entries : List (Entry S σ)) (total p : Nat) : Prop where
  one_le : 1 ≤ p
  le_total : p ≤ total
  undone : ¬ Completed registry entries p
  before : ∀ q, 1 ≤ q → q < p → Completed registry entries q

namespace FirstIncomplete

variable {S : Type} [Playable S σ] {registry : Registry} {entries : List (Entry S σ)}
  {total p q : Nat}

/-- With a first incomplete scene, not all scenes are completed. -/
theorem not_all (h : FirstIncomplete registry entries total p) :
    ¬ ∀ q, 1 ≤ q → q ≤ total → Completed registry entries q :=
  fun hall => h.undone (hall p h.one_le h.le_total)

/-- There is at most one first incomplete scene. -/
theorem unique (hp : FirstIncomplete registry entries total p)
    (hq : FirstIncomplete registry entries total q) : p = q := by
  refine Nat.le_antisymm (Nat.le_of_not_lt fun hlt => ?_) (Nat.le_of_not_lt fun hlt => ?_)
  · exact hq.undone (hp.before q hq.one_le hlt)
  · exact hp.undone (hq.before p hp.one_le hlt)

end FirstIncomplete

namespace Progress

variable {S : Type} [Playable S σ] {registry : Registry} {scenes : List S}
  {entries : List (Entry S σ)} {total : Nat}

/-- A play that succeeds completed every scene. -/
theorem all_completed (h : Progress registry total 1 scenes entries (.ok ())) :
    ∀ p, 1 ≤ p → p ≤ scenes.length → Completed registry entries p := by
  cases h with
  | completed all =>
      intro p hp hle
      have hdone := all (p - 1) (by omega)
      rwa [Nat.sub_add_cancel hp] at hdone

/-- A play that fails with an error stopped at its first incomplete scene. The error names that
scene, and its step was told to have finished with it. -/
theorem first_incomplete {e : Error} (h : Progress registry total 1 scenes entries (.error e)) :
    ∃ step, e.step? = some step ∧ step.total = total ∧
      FirstIncomplete registry entries scenes.length step.position ∧
      ∃ report, .event (.finished step report (some e)) ∈ entries := by
  cases h with
  | @stopped i scene _ scene_eq before undone failure told =>
      have hlt := (List.getElem?_eq_some_iff.mp scene_eq).1
      refine ⟨_, failure, rfl, ⟨Nat.le_add_left 1 i, hlt, undone, fun q hq hlt => ?_⟩, told⟩
      have hdone := before (q - 1) (by simp only at hlt; omega)
      rwa [Nat.sub_add_cancel hq] at hdone

end Progress

/-- Only failed steps and exhausted retries name a step. -/
theorem Error.of_step?_eq_some {e : Error} {step : StepInfo} (h : e.step? = some step) :
    (∃ source, e = .stepFailed step source) ∨ ∃ n last, e = .retryExhausted step n last := by
  unfold step? at h
  split at h
  · cases h; exact .inl ⟨_, rfl⟩
  · cases h; exact .inr ⟨_, _, rfl⟩
  · cases h

/-- What a report says of a run of a file, for which a stack was loaded or not, and which
has a record if it was. -/
structure Truthful {S : Type} [Playable S σ] (file : PlaybookFile)
    (loaded : Except Error Registry) (record : Registry → List (Entry S σ))
    (report : RunReport) : Prop where
  name_eq : report.name = file.name
  stepsTotal_eq : report.stepsTotal = file.steps.length
  passed_iff_failureText : report.passed = true ↔ report.failureText = none
  passed_iff : report.passed = true ↔ ∃ registry, loaded = .ok registry ∧
    ∀ p, 1 ≤ p → p ≤ file.steps.length → Completed registry (record registry) p
  failedStep_iff : ∀ p, report.failedStep = some p ↔ ∃ registry, loaded = .ok registry ∧
    FirstIncomplete registry (record registry) file.steps.length p
  /-- The failure is that of the step that failed, as it was told. -/
  failureText_of_step : ∀ p, report.failedStep = some p → ∃ registry step taken e,
    loaded = .ok registry ∧ step.position = p ∧ step.total = file.steps.length ∧
    ((∃ source, e = .stepFailed step source) ∨ ∃ n last, e = .retryExhausted step n last) ∧
    .event (.finished step taken (some e)) ∈ record registry ∧
    report.failureText = some e.message
  unloaded_iff : report.passed = false ∧ report.failedStep = none ↔ ∃ e, loaded = .error e
  failureText_of_unloaded : ∀ e, loaded = .error e → report.failureText = some e.message

/-! ### Reports of files -/

section Fields

variable (file : PlaybookFile) (failure : Option Error)

@[simp] theorem passed_report : (file.report failure).passed = failure.isNone := rfl

@[simp] theorem failedStep_report :
    (file.report failure).failedStep = (failure.bind Error.step?).map StepInfo.position := rfl

@[simp] theorem failureText_report :
    (file.report failure).failureText = failure.map Error.message := rfl

/-- A report has a text exactly when it is not one of success. -/
theorem passed_iff_failureText_report :
    (file.report failure).passed = true ↔ (file.report failure).failureText = none := by
  cases failure <;> simp

end Fields

namespace Truthful

variable {S : Type} [Playable S σ] {file : PlaybookFile} {loaded : Except Error Registry}
  {record : Registry → List (Entry S σ)} {registry : Registry} {e : Error}

/-- The report of a run without a stack. -/
theorem unloaded (hload : loaded = .error e) (hnamed : e.step? = none) :
    Truthful file loaded record (file.report (some e)) where
  name_eq := rfl
  stepsTotal_eq := rfl
  passed_iff_failureText := passed_iff_failureText_report file _
  passed_iff := by simp [hload]
  failedStep_iff p := by simp [hload, hnamed]
  failureText_of_step p hp := by simp [hnamed] at hp
  unloaded_iff := by simp [hload, hnamed]
  failureText_of_unloaded f hf := by
    rw [hload] at hf
    rw [Except.error.inj hf]
    rfl

/-- The report of a run whose steps were all completed. -/
theorem passed (hload : loaded = .ok registry)
    (hall : ∀ p, 1 ≤ p → p ≤ file.steps.length → Completed registry (record registry) p) :
    Truthful file loaded record (file.report none) where
  name_eq := rfl
  stepsTotal_eq := rfl
  passed_iff_failureText := passed_iff_failureText_report file _
  passed_iff := ⟨fun _ => ⟨registry, hload, hall⟩, fun _ => rfl⟩
  failedStep_iff p := by
    refine ⟨fun hp => by simp at hp, ?_⟩
    rintro ⟨other, heq, hfirst⟩
    obtain rfl := Except.ok.inj (hload.symm.trans heq)
    exact absurd hall hfirst.not_all
  failureText_of_step p hp := by simp at hp
  unloaded_iff := by simp [hload]
  failureText_of_unloaded f hf := by
    rw [hload] at hf
    cases hf

/-- The report of a run that stopped at a step. -/
theorem stopped {step : StepInfo} (hload : loaded = .ok registry) (hstep : e.step? = some step)
    (htotal : step.total = file.steps.length)
    (hfirst : FirstIncomplete registry (record registry) file.steps.length step.position)
    (htold : ∃ taken, .event (.finished step taken (some e)) ∈ record registry) :
    Truthful file loaded record (file.report (some e)) where
  name_eq := rfl
  stepsTotal_eq := rfl
  passed_iff_failureText := passed_iff_failureText_report file _
  passed_iff := by
    refine ⟨fun h => by simp at h, ?_⟩
    rintro ⟨other, heq, hall⟩
    obtain rfl := Except.ok.inj (hload.symm.trans heq)
    exact absurd hall hfirst.not_all
  failedStep_iff p := by
    simp only [failedStep_report, Option.bind_some, hstep, Option.map_some, Option.some.injEq]
    constructor
    · rintro rfl
      exact ⟨registry, hload, hfirst⟩
    · rintro ⟨other, heq, hp⟩
      obtain rfl := Except.ok.inj (hload.symm.trans heq)
      exact hfirst.unique hp
  failureText_of_step p hp := by
    simp only [failedStep_report, Option.bind_some, hstep, Option.map_some,
      Option.some.injEq] at hp
    obtain ⟨taken, htaken⟩ := htold
    exact ⟨registry, step, taken, e, hload, hp, htotal, Error.of_step?_eq_some hstep, htaken, rfl⟩
  unloaded_iff := by simp [hload, hstep]
  failureText_of_unloaded f hf := by
    rw [hload] at hf
    cases hf

end Truthful

/-- However a run ends, its report is truthful. -/
theorem truthful_of_conclusion [Environment σ] {file : PlaybookFile} {settings : Settings}
    {verbose : Bool} {folder : String} {scenes : List (Scene σ)} {s : σ} {failure : Option Error}
    (h : file.Conclusion settings verbose folder scenes s failure)
    (hlength : scenes.length = file.steps.length) :
    Truthful file (file.loading settings folder s).1
      (file.record settings verbose folder scenes s) (file.report failure) := by
  cases h with
  | unloaded load named => exact .unloaded load named
  | @played registry result load progress =>
      cases result with
      | ok u => exact .passed load (hlength ▸ progress.all_completed)
      | error e =>
          obtain ⟨step, hstep, htotal, hfirst, htold⟩ := progress.first_incomplete
          rw [hlength] at htotal hfirst
          exact .stopped load hstep htotal hfirst htold

/-! ## Runs -/

/-- There is one scene for each step. -/
theorem length_of_scenesFrom {verbose : Bool} {steps : List PlaybookStep} {position : Nat}
    {scenes : List (Scene σ)}
    (h : PlaybookStep.scenesFrom verbose position steps = .ok scenes) :
    scenes.length = steps.length := by
  induction steps generalizing position scenes with
  | nil =>
      obtain rfl := Except.ok.inj h
      rfl
  | cons step steps ih =>
      rw [PlaybookStep.scenesFrom] at h
      split at h
      · cases h
      · next q hq =>
          cases hrest : (PlaybookStep.scenesFrom verbose (position + 1) steps :
            Except Error (List (Scene σ))) with
          | error e => rw [hrest] at h; cases h
          | ok rest =>
              rw [hrest] at h
              obtain rfl := Except.ok.inj h
              rw [List.length_cons, List.length_cons, ih hrest]

section Run

variable [Environment σ]

/-- The `run` command succeeds just if the run of the file passed. -/
theorem runPlaybook_ok_iff (settings : Settings) (path : String) (verbose : Bool) (s : σ) :
    (Command.runPlaybook settings path verbose s).1 = .ok () ↔
      ∃ report t, runFile settings verbose path s = (.ok report, t) ∧ report.passed = true := by
  rw [Command.runPlaybook, Act.bind_apply]
  rcases runFile settings verbose path s with ⟨e | report, t⟩
  · refine ⟨fun h => (by cases h), ?_⟩
    rintro ⟨report, t, hrun, -⟩
    cases hrun
  · cases hfailure : report.failure with
    | none =>
        simp only [RunReport.failureText, hfailure]
        exact ⟨fun _ => ⟨report, t, rfl, by rw [RunReport.passed, hfailure]; rfl⟩, fun _ => rfl⟩
    | some e =>
        simp only [RunReport.failureText, hfailure]
        refine ⟨fun h => (by cases h), ?_⟩
        rintro ⟨report', t', hrun, hpassed⟩
        cases hrun
        rw [RunReport.passed, hfailure] at hpassed
        cases hpassed

/-- Exit code 0 is that of a command that succeeded. -/
theorem code_answer_eq_zero_iff (c : Command) (s : σ) :
    (Cli.answer (.command c) s).1.code = 0 ↔ (c.dispatch s).1 = .ok () := by
  rw [Cli.answer]
  rcases c.dispatch s with ⟨e | u, t⟩
  · simp [Ending.code]
  · simp [Ending.code]

/-- **Reports are truthful**, in any environment and whatever it answers.  A file that was
accepted is reported with the steps that it has; the run passed just if its stack was loaded
and all steps were completed, names a failed step just if that is the first which was not,
and otherwise the stack was not loaded.  The `run` command succeeds, and the program exits
with 0, just if the file was accepted and the run passed. -/
theorem truthful_runFile (settings : Settings) (verbose : Bool) (path : String) (s : σ) :
    (∀ report t, runFile settings verbose path s = (.ok report, t) → ∃ file scenes,
      Accepted path (Host.readFile path s).1 file ∧ file.scenes verbose = .ok scenes ∧
      Truthful file (file.loading settings (Path.folder path) (Host.readFile path s).2).1
        (file.record settings verbose (Path.folder path) scenes (Host.readFile path s).2)
        report) ∧
      ∀ before, Settings.load before = (.ok settings, s) →
        let passed := ∃ file report t, Accepted path (Host.readFile path s).1 file ∧
          runFile settings verbose path s = (.ok report, t) ∧ report.passed = true
        (((Command.run path verbose).dispatch before).1 = .ok () ↔ passed) ∧
          ((Cli.answer (.command (.run path verbose)) before).1.code = 0 ↔ passed) := by
  have haccepted : ∀ report t, runFile settings verbose path s = (.ok report, t) →
      ∃ file, Accepted path (Host.readFile path s).1 file := by
    intro report t hrun
    obtain ⟨e, hrefused⟩ | haccepted := refused_or_accepted path (Host.readFile path s).1
    · rw [runFile_of_refused settings verbose hrefused] at hrun
      cases congrArg Prod.fst hrun
    · exact haccepted
  refine ⟨fun report t hrun => ?_, fun before hload => ?_⟩
  · obtain ⟨file, hfile⟩ := haccepted report t hrun
    obtain ⟨scenes, -, hscenes, -⟩ :=
      @PlaybookStep.scenesFrom_of_sound σ σ verbose verbose file.steps hfile.sound 1
    obtain ⟨failure, hreport, hconclusion⟩ := file.conclusion_perform settings verbose
      (Path.folder path) scenes (Host.readFile path s).2
    rw [runFile_of_accepted settings verbose hfile hscenes] at hrun
    obtain rfl : _ = report := Except.ok.inj (congrArg Prod.fst hrun)
    rw [hreport]
    exact ⟨file, scenes, hfile, hscenes,
      truthful_of_conclusion hconclusion (length_of_scenesFrom hscenes)⟩
  · have hiff : ((Command.run path verbose).dispatch before).1 = .ok () ↔
        ∃ file report t, Accepted path (Host.readFile path s).1 file ∧
          runFile settings verbose path s = (.ok report, t) ∧ report.passed = true := by
      rw [Command.dispatch, Act.bind_apply, hload]
      refine (runPlaybook_ok_iff settings path verbose s).trans ⟨?_, ?_⟩
      · rintro ⟨report, t, hrun, hpassed⟩
        obtain ⟨file, hfile⟩ := haccepted report t hrun
        exact ⟨file, report, t, hfile, hrun, hpassed⟩
      · rintro ⟨file, report, t, -, hrun, hpassed⟩
        exact ⟨report, t, hrun, hpassed⟩
    exact ⟨hiff, (code_answer_eq_zero_iff _ before).trans hiff⟩

end Run

end StackPlaybook
