import StackPlaybook.Proofs.Run.Inquiry
import StackPlaybook.Proofs.Run.Report
import StackPlaybook.Rehearsal.Stage

/-!
# StackPlaybook.Proofs.Run.Resolution

There are three ways to ask for a resource: the `resolve` command, a `resolve` step, and a
command text with placeholders.  They find the same name and the same ARN, or fail alike.

* `Answered` — what the command comes to, `Inquired` — what a run of a playbook does.
* `answered_dispatch`, `inquired_runFile` — each does what the ID stands for.
* `resolution_agrees` — so they agree, and a playbook that asks for a malformed ARN is refused
  before anything is done.
-/

namespace StackPlaybook

open Scene

section Hosts

variable {ω : Type} [Host ω]

/-! ## The command -/

/-- What the `resolve` command comes to, by what the ID stands for: it shows the name and the
ARN, or fails and shows nothing. -/
inductive Answered (json : Bool) (id : String) (before : Session ω) :
    Except Error (String × String) → Except Error Unit × Session ω → Prop
  | shown {name arn : String} {t : Session ω}
      (notices : t.notices = before.notices ++ [Command.answerNotice json id name arn]) :
      Answered json id before (.ok (name, arn)) (.ok (), t)
  | rejected {e : Error} {t : Session ω} (notices : t.notices = before.notices) :
      Answered json id before (.error e) (.error e, t)

/-- Loading the settings shows nothing. -/
theorem Settings.notices_load (s : Session ω) : (Settings.load s).2.notices = s.notices := by
  unfold Settings.load
  simp only
  split
  · rw [Act.bind_apply, readText_apply]
    cases textOf (Settings.path (Host.configHome s))
      (Host.readFile (Settings.path (Host.configHome s)) s).1 <;> rfl
  · rfl

namespace Command

variable {settings : Settings} {id : String} {source : StackSource} {manifest : Option String}
  {json : Bool} {before s : Session ω}

/-- The command, once the settings are loaded. -/
theorem dispatch_resolve (hload : Settings.load before = (.ok settings, s))
    (stack : Option String) :
    (Command.resolve id stack source manifest json).dispatch before =
      resolveTarget settings id stack source manifest json s := by
  rw [dispatch, Act.bind_apply, hload]
  rfl

/-- A malformed ARN is refused before a stack is loaded. -/
theorem resolveTarget_of_error {e : Error} (hparse : Target.parse id = .error e)
    (stack : Option String) :
    resolveTarget settings id stack source manifest json s = (.error e, s) := by
  rw [resolveTarget, Act.bind_apply, hparse]
  rfl

/-- In a registry that is loaded, the command shows what the ID stands for. -/
theorem answered_of_registryFor {target : Target} (hparse : Target.parse id = .ok target)
    {stack : Option String} {registry : Registry} {t : Session ω}
    (hregistry : registryFor settings id target stack source manifest s = (.ok registry, t))
    (hnotices : t.notices = before.notices) :
    Answered json id before (Target.resolve registry id)
      (resolveTarget settings id stack source manifest json s) := by
  rw [Target.resolve_of_ok registry hparse]
  simp only [resolveTarget, Act.bind_apply, hparse, Act.ofExcept_apply, hregistry, nameOf_apply,
    Session.logAll_eq]
  cases target.name registry with
  | error e => exact .rejected hnotices
  | ok name =>
      simp only [arnOf_apply, Session.logAll_eq]
      cases target.arnText registry with
      | error e => exact .rejected hnotices
      | ok arn =>
          refine .shown ?_
          simp [Environment.display, hnotices]

/-- **The command with a stack** shows what the ID stands for in the registry of the
documents. -/
theorem answered_dispatch {stack region : String} {documents : Documents} {registry : Registry}
    (hregistry : documents.registry stack region = .ok registry)
    (hload : Settings.load before = (.ok settings, s)) {w : ω}
    (hserved : Served settings stack source.region source.resources manifest region documents
      s.host w) :
    Answered json id before (Target.resolve registry id)
      ((Command.resolve id (some stack) source manifest json).dispatch before) := by
  have hquiet : s.notices = before.notices := by
    rw [← Settings.notices_load before, hload]
  rw [dispatch_resolve hload]
  cases hparse : Target.parse id with
  | error e =>
      rw [Target.resolve_of_error registry hparse, resolveTarget_of_error hparse]
      exact .rejected hquiet
  | ok target =>
      obtain ⟨t, ht, hfetch⟩ := Registry.exists_fetch hserved hregistry
      exact answered_of_registryFor hparse
        ((registryFor_some settings id target stack source manifest s).trans hfetch)
        (ht.notices.trans hquiet)

/-- **The command without a stack** shows what an ARN stands for in any registry. -/
theorem answered_dispatch_arn (harn : Text.startsWith id "arn:" = true) (registry : Registry)
    (hload : Settings.load before = (.ok settings, s)) :
    Answered json id before (Target.resolve registry id)
      ((Command.resolve id none source manifest json).dispatch before) := by
  have hquiet : s.notices = before.notices := by
    rw [← Settings.notices_load before, hload]
  rw [dispatch_resolve hload]
  obtain ⟨n, hparse⟩ | ⟨a, hparse⟩ | ⟨hid, -⟩ := Target.parse_cases id
  · rw [Target.resolve_of_error registry hparse, resolveTarget_of_error hparse]
    exact .rejected hquiet
  · have hsame : Target.resolve registry id =
        Target.resolve (.empty "" a.region a.account) id := by
      rw [Target.resolve_of_ok _ hparse, Target.resolve_of_ok _ hparse]
      rfl
    rw [hsame]
    exact answered_of_registryFor hparse rfl hquiet
  · rw [harn] at hid
    cases hid

end Command

/-! ## Playbooks -/

/-- A playbook of which the step at an index asks for an ID, and no other step is bad. -/
structure Asking {registry : Registry} (path : String) (given : Except String Bytes)
    (file : PlaybookFile) (i : Nat) (inquiry : Inquiry registry) (id : String) : Prop where
  parsed : ∃ document, textOf path given = .ok document ∧ PlaybookFile.parse? document = some file
  asks : file.steps[i]? = some (inquiry.step id)
  others : ∀ j step, file.steps[j]? = some step → j ≠ i → step.flaw? = none

namespace Asking

variable {registry : Registry} {path id : String} {given : Except String Bytes}
  {file : PlaybookFile} {i : Nat} {inquiry : Inquiry registry}

/-- With a malformed ARN the playbook is refused. -/
theorem refused (h : Asking path given file i inquiry id) (hid : Template.Placeable id) {e : Error}
    (hparse : Target.parse id = .error e) :
    Refused path given (.config ("Step " ++ toString (i + 1) ++ ": " ++ e.message)) := by
  obtain ⟨document, htext, hfile⟩ := h.parsed
  have hdetail : e.detail = e.message := by
    obtain ⟨n, hmalformed⟩ | ⟨a, hok⟩ | ⟨-, hok⟩ := Target.parse_cases id
    · rw [hparse] at hmalformed
      rw [Except.error.inj hmalformed]
      rfl
    · rw [hparse] at hok; cases hok
    · rw [hparse] at hok; cases hok
  rw [← hdetail]
  refine .badStep htext hfile ⟨?_, fun step hstep => ?_⟩
  · rw [h.asks, Option.bind_some, inquiry.flaw?_step hid, hparse]
    rfl
  · obtain ⟨j, hj, rfl⟩ := List.mem_take_iff_getElem.mp hstep
    exact h.others j _ (List.getElem?_eq_getElem (by omega)) (by omega)

/-- With any other ID the playbook is accepted. -/
theorem accepted (h : Asking path given file i inquiry id) (hid : Template.Placeable id)
    {target : Target} (hparse : Target.parse id = .ok target) : Accepted path given file := by
  refine ⟨h.parsed, fun step hstep => ?_⟩
  obtain ⟨j, hj⟩ := List.mem_iff_getElem?.mp hstep
  by_cases hji : j = i
  · subst hji
    obtain rfl := Option.some.inj (hj.symm.trans h.asks)
    rw [inquiry.flaw?_step hid, hparse]
    rfl
  · exact h.others j step hj hji

end Asking

/-- What a run of a playbook does about a step that asks for an ID.  For a malformed ARN the
file is read, and that is all.  Otherwise the scenes of the steps are played in the registry,
every attempt at that of the step does what the ID stands for, and so the step fares in the
record and the report of the run. -/
inductive Inquired {registry : Registry} (settings : Settings) (verbose : Bool) (path : String)
    (s : Session ω) (file : PlaybookFile) (i : Nat) (inquiry : Inquiry registry) (id : String)
    (w : ω) : Prop
  | refused {e : Error} (malformed : Target.parse id = .error e)
      (unresolved : Target.resolve registry id = .error e)
      (run : runFile settings verbose path s =
        (.error (.config ("Step " ++ toString (i + 1) ++ ": " ++ e.message)),
          (Host.readFile path s).2))
  | played {target : Target} {scenes : List (Scene (Session ω))} {scene : Scene (Session ω)}
      {t : Session ω} (parsed : Target.parse id = .ok target)
      (scenes_eq : file.scenes verbose = .ok scenes) (host : t.host = w)
      (notices : t.notices = s.notices ++ file.opening)
      (load : file.loading settings (Path.folder path) (Host.readFile path s).2 =
        (.ok registry, t))
      (run : runFile settings verbose path s =
        let x := file.playScenes settings verbose scenes registry t
        (.ok x.1, x.2))
      (scene_eq : scenes[i]? = some scene)
      (attempts : Inquires verbose inquiry (Target.resolve registry id) scene)
      (fared : Fared verbose inquiry (Target.resolve registry id) scene
        ⟨i + 1, scenes.length, scene.label⟩ (FiniteTimer.waits settings.backoff).length
        (file.record settings verbose (Path.folder path) scenes (Host.readFile path s).2 registry)
        (file.playScenes settings verbose scenes registry t).1.failure)

/-- Notices that are shown one after the other are added in order. -/
theorem Session.foldl_display (notices : List Notice) (s : Session ω) :
    notices.foldl (fun s n => Environment.display n s) s =
      { s with notices := s.notices ++ notices } := by
  induction notices generalizing s with
  | nil => simp
  | cons n notices ih =>
      rw [List.foldl_cons, ih]
      simp [Environment.display]

/-- The scenes of a file are those of its steps. -/
theorem PlaybookStep.exists_scene_of_scenesFrom {σ : Type} [Environment σ] {verbose : Bool}
    {position : Nat} {steps : List PlaybookStep} {scenes : List (Scene σ)}
    (h : scenesFrom verbose position steps = .ok scenes) {i : Nat} {step : PlaybookStep}
    (hstep : steps[i]? = some step) :
    ∃ scene, step.scene verbose = .ok scene ∧ scenes[i]? = some scene := by
  induction steps generalizing i position scenes with
  | nil => cases hstep
  | cons first steps ih =>
      rw [scenesFrom] at h
      split at h
      · cases h
      · next q hq =>
          obtain ⟨rest, hrest, rfl⟩ := exists_of_map_eq_ok h
          cases i with
          | zero =>
              obtain rfl := Option.some.inj hstep
              exact ⟨q, hq, rfl⟩
          | succ i => exact ih hrest hstep

/-- **A playbook that asks for an ID** is refused for a malformed ARN, and plays what the ID
stands for in the registry of the documents. -/
theorem inquired_runFile {id : String} (hid : Template.Placeable id) {stack region : String}
    {documents : Documents} {registry : Registry}
    (hregistry : documents.registry stack region = .ok registry) (settings : Settings)
    (verbose : Bool) {path : String} {s : Session ω} {file : PlaybookFile} {i : Nat}
    {inquiry : Inquiry registry}
    (hasking : Asking path (Host.readFile path s.host).1 file i inquiry id)
    (hstack : file.stack.name = stack) {w : ω}
    (hserved : Served settings stack file.stack.region
      (file.stack.resourcesFile.map (Path.resolve (Path.folder path)))
      (file.stack.manifest.map (Path.resolve (Path.folder path))) region documents
      (Host.readFile path s.host).2 w) :
    Inquired settings verbose path s file i inquiry id w := by
  subst hstack
  cases hparse : Target.parse id with
  | error e =>
      exact .refused hparse (Target.resolve_of_error registry hparse)
        (runFile_of_refused settings verbose (hasking.refused hid hparse))
  | ok target =>
      have haccepted : Accepted path (Host.readFile path s).1 file := hasking.accepted hid hparse
      obtain ⟨scenes, -, hscenes, -⟩ :=
        @PlaybookStep.scenesFrom_of_sound (Session ω) (Session ω) verbose verbose file.steps
          haccepted.sound 1
      obtain ⟨scene, hscene, hget⟩ :=
        PlaybookStep.exists_scene_of_scenesFrom hscenes hasking.asks
      obtain ⟨scene', hscene', hattempts⟩ :=
        inquiry.exists_scene (ω := ω) hid verbose hparse
      obtain rfl := Except.ok.inj (hscene.symm.trans hscene')
      -- The stack is loaded when the opening has been shown, which the host does not notice.
      let opened : Session ω := { (Host.readFile path s).2 with
        notices := (Host.readFile path s).2.notices ++ file.opening }
      obtain ⟨t, ht, hfetch⟩ := Registry.exists_fetch (s := opened) hserved hregistry
      have hload : file.loading settings (Path.folder path) (Host.readFile path s).2 =
          (.ok registry, t) := by
        rw [PlaybookFile.loading, Session.foldl_display, PlaybookFile.loadRegistry_eq]
        exact hfetch
      refine .played hparse hscenes ht.host ht.notices hload ?_ hget hattempts ?_
      · rw [runFile_of_accepted settings verbose haccepted hscenes, PlaybookFile.perform]
        simp only [Session.foldl_display, PlaybookFile.loadRegistry_eq]
        rw [hfetch]
      · rw [PlaybookFile.record, hload, PlaybookFile.report_playScenes]
        exact fared_of_play (file.pacing settings verbose) scenes _ hattempts hget

/-! ## All three -/

/-- The registry of documents goes by the name of the stack it was asked for. -/
theorem Documents.stackName_of_registry {documents : Documents} {stack region : String}
    {registry : Registry} (h : documents.registry stack region = .ok registry) :
    registry.stackName = stack := by
  obtain ⟨first, hfirst, hmanifest⟩ := exists_of_bind_eq_ok h
  obtain ⟨description, -, hfilled⟩ := exists_of_bind_eq_ok hfirst
  obtain ⟨arn, -, rfl⟩ := Registry.exists_of_ofDescription hfilled
  split at hmanifest
  · rw [← Except.ok.inj hmanifest]
  · obtain ⟨manifest, -, rfl⟩ := exists_of_map_eq_ok hmanifest
    rfl

/-- **The ways to ask for a resource agree.**  Take the registry of any documents, and any ID
that can be written into a placeholder.  On whatever hosts these documents are handed out, the
`resolve` command, a `resolve` step and a command with the placeholders for name and ARN, run
once or polled, all find what the ID stands for in that registry: the same name and the same
ARN, or the same error.  A playbook that asks for a malformed ARN is refused before anything
is done; and for an ARN the command needs no stack. -/
theorem resolution_agrees {id : String} (hid : Template.Placeable id) {stack region : String}
    {documents : Documents} {registry : Registry}
    (hregistry : documents.registry stack region = .ok registry) :
    (∀ e, Target.resolve registry id = .error e → Target.Unresolved id stack e) ∧
    (∀ (settings : Settings) (source : StackSource) (manifest : Option String) (json : Bool)
      (before s : Session ω) (w : ω), Settings.load before = (.ok settings, s) →
      Served settings stack source.region source.resources manifest region documents s.host w →
      Answered json id before (Target.resolve registry id)
        ((Command.resolve id (some stack) source manifest json).dispatch before)) ∧
    (∀ (settings : Settings) (source : StackSource) (manifest : Option String) (json : Bool)
      (before s : Session ω), Text.startsWith id "arn:" = true →
      Settings.load before = (.ok settings, s) →
      Answered json id before (Target.resolve registry id)
        ((Command.resolve id none source manifest json).dispatch before)) ∧
    ∀ (settings : Settings) (verbose : Bool) (path : String) (s : Session ω) (file : PlaybookFile)
      (i : Nat) (inquiry : Inquiry registry) (w : ω),
      Asking path (Host.readFile path s.host).1 file i inquiry id → file.stack.name = stack →
      Served settings stack file.stack.region
        (file.stack.resourcesFile.map (Path.resolve (Path.folder path)))
        (file.stack.manifest.map (Path.resolve (Path.folder path))) region documents
        (Host.readFile path s.host).2 w →
      Inquired settings verbose path s file i inquiry id w := by
  refine ⟨fun e he => ?_, ?_, ?_, ?_⟩
  · have hunresolved := Target.unresolved_of_resolve he
    rw [Documents.stackName_of_registry hregistry] at hunresolved
    exact hunresolved
  · intro settings source manifest json before s w hload hserved
    exact Command.answered_dispatch hregistry hload hserved
  · intro settings source manifest json before s harn hload
    exact Command.answered_dispatch_arn harn registry hload
  · intro settings verbose path s file i inquiry w hasking hstack hserved
    exact inquired_runFile hid hregistry settings verbose hasking hstack hserved

end Hosts

/-! ## Stages with a saved document -/

/-- A file that holds the bytes of a text reads as the text. -/
theorem textOf_toUTF8 (path text : String) :
    textOf path (.ok text.toUTF8.data.toList) = .ok text := by
  rw [textOf, Bytes.decode?_toUTF8]

namespace Rehearsal.Stage

/-- A stage on which the document of a stack lies, and no file of settings. -/
structure Saved (stage : Stage) (path document : String) : Prop where
  read : Host.readFile path stage = (.ok document.toUTF8.data.toList, stage)
  unset : Host.fileExists (Settings.path stage.configHome) stage = false

namespace Saved

variable {stage : Stage} {path document : String}

/-- The stage hands out the document, and stays as it is. -/
theorem served (h : stage.Saved path document) (settings : Settings) (stack region : String) :
    Served settings stack (some region) (some path) none region ⟨document, none⟩ stage stage := by
  have htext : textOf path (Host.readFile path stage).1 = .ok document := by
    rw [h.read]
    exact textOf_toUTF8 path document
  have hdescribed : Describer.Gives stack region document (.file path) stage
      (Host.readFile path stage).2 := .file htext
  rw [h.read] at hdescribed
  exact ⟨rfl, .file path, rfl, .plain hdescribed⟩

/-- The settings are at their defaults. -/
theorem load_settings (h : stage.Saved path document) :
    Settings.load (Session.start stage) =
      (.ok (.default (Settings.ambientRegion stage)), Session.start stage) :=
  Settings.load_of_missing h.unset

end Saved

end Rehearsal.Stage

/-! ### A table of a stack -/

namespace Sales

open Rehearsal

/-- A playbook that asks for a table in a command. -/
def playbook : String :=
  "
  name: sales
  stack: \x7bname: orders, region: r, resources_file: stack.json\x7d
  steps:
  - action: shell
    command: \"echo \x7b\x7bname:Sales\x7d\x7d \x7b\x7barn:Sales\x7d\x7d\"
  "

def documents : Documents := ⟨Registry.tableFirst, none⟩

/-- A stage on which the files lie. -/
def stage : Stage :=
  let file (text : String) : Node := .file text.toUTF8.data.toList false
  ⟨.folder [("play.yaml", file playbook), ("stack.json", file documents.described)], 0, default, [],
    "/home", []⟩

/-- What the playbook says. -/
def file : PlaybookFile :=
  ⟨"sales", none, ⟨"orders", some "r", some "stack.json", none⟩, none,
    [.shell "echo \x7b\x7bname:Sales\x7d\x7d \x7b\x7barn:Sales\x7d\x7d"]⟩

/-- The table that the document lists. -/
def table : Resource := ⟨"Sales", "sales", "AWS::DynamoDB::Table"⟩

def registry : Registry := ⟨"orders", "r", "1", .ofList [("Sales", table)], none⟩

/-- The command of the playbook. -/
def inquiry : Inquiry registry :=
  .shell
    { before := "echo "
      after := ""
      whole := Placeholder.whole_of_closed (by decide)
      front := _
      back := _
      parse_before := Template.parse_literal (by decide) (by decide)
      parse_after := Template.parse_empty
      lead := "echo "
      trail := ""
      render_front := by rfl
      render_back := by rfl }

theorem parse_tableFirst :
    StackDescription.parse Registry.tableFirst "orders" "r" =
      .ok ⟨"arn:aws:c:r:1:s", [table]⟩ := by
  rw [StackDescription.parse, Registry.listing_tableFirst]
  rfl

theorem registry_documents : documents.registry "orders" "r" = .ok registry := by
  let stackArn : Arn := ⟨"arn:aws:c:r:1:s", by decide, by decide⟩
  have haccount : stackArn.account = "1" := by decide
  have hparse : Arn.parse "arn:aws:c:r:1:s" = .ok stackArn := Arn.parse_text stackArn
  have hfirst : Registry.ofDocument Registry.tableFirst "orders" "r" = .ok registry := by
    rw [Registry.ofDocument, parse_tableFirst, Except.bind, Registry.ofDescription, hparse,
      registry, ← haccount]
    rfl
  exact congrArg (Except.bind · Except.ok) hfirst

theorem resolve_sales :
    Target.resolve registry "Sales" = .ok ("sales", "arn:aws:dynamodb:r:1:table/sales") := by
  rw [Target.resolve_logicalId registry rfl]
  decide

theorem saved : stage.Saved "stack.json" documents.described := ⟨rfl, by decide⟩

set_option maxRecDepth 8000 in
theorem asking :
    Asking "play.yaml" (Host.readFile "play.yaml" stage).1 file 0 inquiry "Sales" := by
  refine ⟨⟨playbook, textOf_toUTF8 _ _, ?_⟩, rfl, fun j step hstep hj => ?_⟩
  · rw [PlaybookFile.parse?, Yaml.Reading.run?, Yaml.parse?, Yaml.scan, playbook,
      String.toList_ofList]
    decide +kernel
  · cases j with
    | zero => exact absurd rfl hj
    | succ j => cases hstep

end Sales

open Sales Rehearsal in
/-- The command line and the playbook both find the table. -/
theorem sales_resolution_agrees :
    let settings := Settings.default "us-east-1"
    let source : StackSource := ⟨some "r", some "stack.json"⟩
    let s := Session.start stage
    Template.Placeable "Sales" ∧ documents.registry "orders" "r" = .ok registry ∧
      Settings.load s = (.ok settings, s) ∧
      Served settings "orders" source.region source.resources none "r" documents stage stage ∧
      Answered true "Sales" s (.ok ("sales", "arn:aws:dynamodb:r:1:table/sales"))
        ((Command.resolve "Sales" (some "orders") source none true).dispatch s) ∧
      Asking "play.yaml" (Host.readFile "play.yaml" stage).1 file 0 inquiry "Sales" ∧
      Inquired settings true "play.yaml" s file 0 inquiry "Sales" stage := by
  intro settings source s
  have hid : Template.Placeable "Sales" := ⟨by decide, by simp [Text.isBlank]⟩
  obtain ⟨-, hcommand, -, hplaybook⟩ := resolution_agrees (ω := Stage) hid registry_documents
  have hload := saved.load_settings
  have hserved := saved.served settings "orders" "r"
  have hanswered := hcommand settings source none true s s stage hload hserved
  rw [resolve_sales] at hanswered
  exact ⟨hid, registry_documents, hload, hserved, hanswered, asking,
    hplaybook settings true "play.yaml" s file 0 inquiry stage asking rfl hserved⟩

end StackPlaybook

