import StackPlaybook.Proofs.Run.Validation

/-!
# StackPlaybook.Proofs.Run.Verbosity

Asking for details changes nothing but what is shown.

* `Akin` — environments in which whole runs cannot be told apart, with details or without.
* `Akin.agrees_runFile` — the runs of a file in such environments: the same answer, and
  related states, from loading the stack to the last step.
* `Muted` — two states of which one shows details that the other leaves out.
* `undisturbed_runFile` — what a run with details and one without have in common: all but
  the details.
-/

namespace StackPlaybook

variable {σ σ' α : Type}

/-! ## Runs in related environments -/

/-- Environments in which the runs of a file cannot be told apart: on top of what its steps
do, programs that are asked for stacks and files answer alike. -/
structure Akin [Environment σ] [Environment σ'] (R : σ → σ' → Prop) (verbose verbose' : Bool) :
    Prop extends Kin R verbose verbose' where
  spawn (program : String) (args : List String) :
    Agrees R (Host.spawn program args) (Host.spawn program args)
  readFile (path : String) : Agrees R (Host.readFile path) (Host.readFile path)

namespace Akin

variable [Environment σ] [Environment σ'] {R : σ → σ' → Prop} {verbose verbose' : Bool}

theorem readText (h : Akin R verbose verbose') (path : String) :
    Agrees R (StackPlaybook.readText path) (StackPlaybook.readText path) := by
  intro s s' hr
  obtain ⟨hanswer, hstate⟩ := h.readFile path s s' hr
  rw [readText_apply, readText_apply, hanswer]
  exact ⟨rfl, hstate⟩

/-! ### Loading -/

/-- A program that is asked for a stack answers alike on related states. -/
theorem ask (h : Akin R verbose verbose') (program stack region : String) :
    Agrees R (Describer.ask program stack region) (Describer.ask program stack region) := by
  intro s s' hr
  obtain ⟨hanswer, hstate⟩ := h.spawn program (Describer.arguments stack region) _ _
    (h.log (Describer.question program stack region) hr)
  rw [Describer.ask_apply, Describer.ask_apply]
  dsimp only
  rw [hanswer]
  exact ⟨rfl, h.logAll _ hstate⟩

theorem describe (h : Akin R verbose verbose') (stack region : String) (d : Describer) :
    Agrees R (d.describe stack region) (d.describe stack region) := by
  cases d with
  | program name => exact h.ask name stack region
  | file path =>
      refine Agrees.bind (h.readText path) fun document s s' hr => ?_
      rw [Describer.read_apply, Describer.read_apply]
      exact ⟨rfl, h.logAll _ hr⟩

/-- A stack loads alike on related states. -/
theorem load (h : Akin R verbose verbose') (d : Describer) (stack region : String) :
    Agrees R (Registry.load d stack region) (Registry.load d stack region) :=
  (h.describe stack region d).bind fun _ => (Agrees.ofExcept _).bind fun registry =>
    (Agrees.change (h.log _)).bind fun _ => .pure registry

theorem manifest_load (h : Akin R verbose verbose') (path : String) :
    Agrees R (Manifest.load path) (Manifest.load path) :=
  (h.readText path).bind fun _ => .ofExcept _

/-- What a playbook loads is the same on related states. -/
theorem loadRegistry (h : Akin R verbose verbose') (file : PlaybookFile) (settings : Settings)
    (folder : String) :
    Agrees R (file.loadRegistry settings folder) (file.loadRegistry settings folder) := by
  refine Agrees.bind (.ofExcept _) fun describer => (h.load describer _ _).bind fun registry => ?_
  cases file.stack.manifest with
  | none => exact .pure registry
  | some path => exact (h.manifest_load _).bind fun manifest => .pure _

/-! ### Performing -/

/-- Nothing that opens a run is a detail. -/
theorem opening (h : Akin R verbose verbose') (file : PlaybookFile) {s : σ} {s' : σ'}
    (hr : R s s') :
    R (file.opening.foldl (fun s n => Environment.display n s) s)
      (file.opening.foldl (fun s n => Environment.display n s) s') := by
  have hplain : ∀ n ∈ file.opening, n.isDetail = false := by
    intro n hn
    simp only [PlaybookFile.opening, List.cons_append, List.mem_cons, List.mem_append,
      Option.mem_toList, Option.map_eq_some_iff, List.not_mem_nil, or_false] at hn
    obtain rfl | ⟨text, -, rfl⟩ | rfl := hn <;> rfl
  generalize file.opening = notices at hplain
  induction notices generalizing s s' with
  | nil => exact hr
  | cons n notices ih =>
      obtain ⟨hn, hnotices⟩ := List.forall_mem_cons.mp hplain
      exact ih (h.display hn hr) hnotices

/-- Twin scenes played on related states come to the same report. -/
theorem playScenes (h : Akin R verbose verbose') (file : PlaybookFile) (settings : Settings)
    {scenes : List (Scene σ)} {scenes' : List (Scene σ')}
    (hscenes : List.Forall₂ (Twin verbose verbose') scenes scenes') (registry : Registry) :
    Agrees R (file.playScenes settings verbose scenes registry)
      (file.playScenes settings verbose' scenes' registry) := by
  intro s s' hr
  have hshown := h.display (n := .steps) rfl (h.display (n := .loaded registry.stackName
    registry.region registry.resources.length) rfl hr)
  obtain ⟨answer, next, next', t, t', hplay, hplay', -, hstate⟩ :=
    ((h.simulation file settings registry).play hscenes hshown).inv
  simp only [PlaybookFile.playScenes]
  rw [hplay, hplay']
  cases answer with
  | ok u => exact ⟨rfl, h.display rfl hstate⟩
  | error e => exact ⟨rfl, h.display rfl hstate⟩

/-- An accepted file performed with twin scenes comes to the same report. -/
theorem perform (h : Akin R verbose verbose') (file : PlaybookFile) (settings : Settings)
    (folder : String) {scenes : List (Scene σ)} {scenes' : List (Scene σ')}
    (hscenes : List.Forall₂ (Twin verbose verbose') scenes scenes') :
    Agrees R (file.perform settings verbose folder scenes)
      (file.perform settings verbose' folder scenes') := by
  intro s s' hr
  obtain ⟨hanswer, hstate⟩ := h.loadRegistry file settings folder _ _ (h.opening file hr)
  simp only [PlaybookFile.perform]
  rcases hload : file.loadRegistry settings folder _ with ⟨x, t⟩
  rcases hload' : file.loadRegistry settings folder _ with ⟨x', t'⟩
  rw [hload, hload'] at hanswer hstate
  obtain rfl : x = x' := hanswer
  cases x with
  | error e => exact ⟨rfl, h.display rfl hstate⟩
  | ok registry => exact h.playScenes file settings hscenes registry t t' hstate

/-- **Running a file** does the same on related states. -/
theorem agrees_runFile (h : Akin R verbose verbose') (settings : Settings) (path : String) :
    Agrees R (runFile settings verbose path) (runFile settings verbose' path) := by
  intro s s' hr
  obtain ⟨hgiven, hread⟩ := h.readFile path s s' hr
  obtain ⟨e, hrefused⟩ | ⟨file, haccepted⟩ := refused_or_accepted path (Host.readFile path s).1
  · rw [runFile_of_refused settings verbose hrefused,
      runFile_of_refused settings verbose' (hgiven ▸ hrefused)]
    exact ⟨rfl, hread⟩
  · obtain ⟨scenes, scenes', hscenes, hscenes', htwins⟩ :=
      @PlaybookStep.scenesFrom_of_sound σ σ' verbose verbose' file.steps haccepted.sound 1
    obtain ⟨hreport, hstate⟩ :=
      h.perform file settings (Path.folder path) htwins _ _ hread
    rw [runFile_of_accepted settings verbose haccepted hscenes,
      runFile_of_accepted settings verbose' (hgiven ▸ haccepted) hscenes']
    exact ⟨congrArg Except.ok hreport, hstate⟩

end Akin

/-! ## Deeds without details -/

/-- What a deed shows. -/
def Deed.notice? : Deed → Option Notice
  | .display n => some n
  | _ => none

/-- Whether the deed shows what is shown only when details are asked for. -/
def Deed.isDetail (d : Deed) : Bool := d.notice?.any Notice.isDetail

/-- What deeds show, in order. -/
def noticesOf (deeds : List Deed) : List Notice := deeds.filterMap Deed.notice?

/-- The deeds that show nothing: reading files, running programs and waiting. -/
def actsOf (deeds : List Deed) : List Deed := deeds.filter fun d => d.notice?.isNone

section Filtered

variable (deeds : List Deed)

/-- Without the deeds that show details, what is shown is what is no detail. -/
theorem noticesOf_filter_isDetail :
    noticesOf (deeds.filter fun d => !d.isDetail) =
      (noticesOf deeds).filter fun n => !n.isDetail := by
  induction deeds with
  | nil => rfl
  | cons d deeds ih =>
      unfold noticesOf Deed.isDetail at *
      cases hd : d.notice? with
      | none => simp [hd, ih]
      | some n => cases hn : n.isDetail <;> simp [hd, hn, ih]

/-- Showing details is no act. -/
theorem actsOf_filter_isDetail :
    actsOf (deeds.filter fun d => !d.isDetail) = actsOf deeds := by
  unfold actsOf
  rw [List.filter_filter]
  refine List.filter_congr fun d _ => ?_
  unfold Deed.isDetail
  cases d.notice? <;> simp

end Filtered

/-! ## Sessions with and without details -/

variable {ω : Type}

/-- Two states that were the same before anything was done: since then both have done the
same but for showing details, which the second has left out. -/
structure Muted (start : Session ω) (loud quiet : Traced (Session ω)) : Prop where
  host : quiet.state.host = loud.state.host
  journal : quiet.state.journal = loud.state.journal
  deeds : quiet.deeds = loud.deeds.filter fun d => !d.isDetail
  loud_notices : loud.state.notices = start.notices ++ noticesOf loud.deeds
  quiet_notices : quiet.state.notices = start.notices ++ noticesOf quiet.deeds

namespace Muted

variable {start : Session ω} {loud quiet : Traced (Session ω)}

/-- Nothing has been done yet. -/
theorem refl (start : Session ω) : Muted start ⟨start, []⟩ ⟨start, []⟩ :=
  ⟨rfl, rfl, rfl, (List.append_nil _).symm, (List.append_nil _).symm⟩

/-- Both do a deed of the host. -/
theorem act (h : Muted start loud quiet) (host : ω) {d : Deed} (hd : d.notice? = none) :
    Muted start ⟨{ loud.state with host }, loud.deeds ++ [d]⟩
      ⟨{ quiet.state with host }, quiet.deeds ++ [d]⟩ where
  host := rfl
  journal := h.journal
  deeds := by simp [h.deeds, Deed.isDetail, hd]
  loud_notices := by simpa [noticesOf, hd] using h.loud_notices
  quiet_notices := by simpa [noticesOf, hd] using h.quiet_notices

/-- Both show what is no detail. -/
theorem display [Host ω] (h : Muted start loud quiet) {n : Notice} (hn : n.isDetail = false) :
    Muted start (Environment.display n loud) (Environment.display n quiet) where
  host := h.host
  journal := h.journal
  deeds := by simp [Environment.display, h.deeds, Deed.isDetail, Deed.notice?, hn]
  loud_notices := by simp [Environment.display, h.loud_notices, noticesOf, Deed.notice?]
  quiet_notices := by simp [Environment.display, h.quiet_notices, noticesOf, Deed.notice?]

/-- Only the first shows a detail. -/
theorem detail [Host ω] (h : Muted start loud quiet) {n : Notice} (hn : n.isDetail = true) :
    Muted start (Environment.display n loud) quiet where
  host := h.host
  journal := h.journal
  deeds := by simp [Environment.display, h.deeds, Deed.isDetail, Deed.notice?, hn]
  loud_notices := by simp [Environment.display, h.loud_notices, noticesOf, Deed.notice?]
  quiet_notices := h.quiet_notices

/-- An operation of the host answers alike, and the deed tells so. -/
theorem agrees_adding (start : Session ω) {deed : α → Deed} (hdeed : ∀ x, (deed x).notice? = none)
    (f : ω → α × ω) :
    Agrees (Muted start) (Traced.adding deed (Session.onHost f))
      (Traced.adding deed (Session.onHost f)) := by
  intro loud quiet h
  have hacted := h.act (f loud.state.host).2 (hdeed (f loud.state.host).1)
  unfold Traced.adding Session.onHost
  rw [h.host]
  exact ⟨rfl, hacted⟩

end Muted

variable [Host ω]

/-- A run with details and a run without cannot be told apart but by the details. -/
theorem akin_muted (start : Session ω) : Akin (Muted start) true false where
  now {loud quiet} h := congrArg (Clock.now : ω → Nat) h.host.symm
  sleep {loud quiet} d h := by
    have hslept := h.act (Clock.sleep d loud.state.host) (d := .sleep d) rfl
    have hquiet : Clock.sleep d quiet = ⟨{ quiet.state with
      host := Clock.sleep d loud.state.host }, quiet.deeds ++ [.sleep d]⟩ := by rw [← h.host]; rfl
    rw [hquiet]
    exact hslept
  shell command := Muted.agrees_adding start (fun _ => rfl) _
  log e h := ⟨h.host, congrArg (· ++ [e]) h.journal, h.deeds, h.loud_notices, h.quiet_notices⟩
  display hn h := h.display hn
  detail hn h := h.detail hn
  spawn program args := Muted.agrees_adding start (fun _ => rfl) _
  readFile path := Muted.agrees_adding start (fun _ => rfl) _

/-- Keeping a list of the deeds changes nothing. -/
theorem akin_traced [Environment σ] (verbose : Bool) :
    Akin (fun (w : Traced σ) s => w.state = s) verbose verbose where
  now h := congrArg Clock.now h
  sleep d h := congrArg (Clock.sleep d) h
  shell command w s h := by subst h; exact ⟨rfl, rfl⟩
  log e h := congrArg (Environment.log e) h
  display _ h := congrArg (Environment.display _) h
  detail _ h := by
    subst h
    cases verbose <;> rfl
  spawn program args w s h := by subst h; exact ⟨rfl, rfl⟩
  readFile path w s h := by subst h; exact ⟨rfl, rfl⟩

/-- What a run with details and a run without, from the same state, have in common. -/
structure Undisturbed (start : Session ω) (loud quiet : α × Traced (Session ω)) : Prop where
  answer : quiet.1 = loud.1
  /-- The same files are read, the same programs are run with the same answers, and the same
  waits lie between them. -/
  acts : actsOf quiet.2.deeds = actsOf loud.2.deeds
  /-- The run without details shows what the other one shows, but for the details. -/
  notices : noticesOf quiet.2.deeds =
    (noticesOf loud.2.deeds).filter fun n => !n.isDetail
  /-- Both of it in the same order. -/
  deeds : quiet.2.deeds = loud.2.deeds.filter fun d => !d.isDetail
  host : quiet.2.state.host = loud.2.state.host
  journal : quiet.2.state.journal = loud.2.state.journal
  loud_stdout (colours : Bool) : loud.2.state.stdout colours =
    start.stdout colours ++ Notice.renderAll colours (noticesOf loud.2.deeds)
  quiet_stdout (colours : Bool) : quiet.2.state.stdout colours =
    start.stdout colours ++ Notice.renderAll colours (noticesOf quiet.2.deeds)

/-- **Verbosity does not interfere**, for any file, settings and host, however its programs
and files answer.  Runs with and without details give the same report or the same error,
run the same programs with the same waits between them and leave the same host behind; and
what the run without details shows is what the other one shows, with the details removed. -/
theorem undisturbed_runFile (settings : Settings) (path : String) (s : Session ω) :
    let run (verbose : Bool) := runFile settings verbose path (⟨s, []⟩ : Traced (Session ω))
    Undisturbed s (run true) (run false) ∧
      ∀ verbose, runFile settings verbose path s = ((run verbose).1, (run verbose).2.state) := by
  intro run
  obtain ⟨hanswer, hmuted⟩ :=
    (akin_muted s).agrees_runFile settings path _ _ (Muted.refl s)
  refine ⟨⟨hanswer.symm, ?_, ?_, hmuted.deeds, hmuted.host, hmuted.journal, fun colours => ?_,
    fun colours => ?_⟩, fun verbose => ?_⟩
  · rw [hmuted.deeds, actsOf_filter_isDetail]
  · rw [hmuted.deeds, noticesOf_filter_isDetail]
  · rw [Session.stdout, hmuted.loud_notices, Notice.renderAll_append]
    rfl
  · rw [Session.stdout, hmuted.quiet_notices, Notice.renderAll_append]
    rfl
  · obtain ⟨hsame, hstate⟩ :=
      (akin_traced (σ := Session ω) verbose).agrees_runFile settings path ⟨s, []⟩ s rfl
    exact Prod.ext hsame.symm hstate.symm

end StackPlaybook
