import StackPlaybook.Command
import StackPlaybook.Proofs.Run.Deeds
import StackPlaybook.Proofs.Stack.Order
import StackPlaybook.Proofs.Template.Placement

/-!
# StackPlaybook.Proofs.Run.Supply

Registries that are loaded from documents on a host.

* `Target.resolve` — what an ID stands for in a registry, by which every way to ask for it is
  measured; `unresolved_of_resolve` says why it may stand for nothing.
* `Documents.registry` — the registry of a document and a manifest.
* `Served` — a host that hands out the documents of a stack.
* `exists_fetch` — on such a host just that registry is loaded, by the command
  (`registryFor_some`) and for a playbook (`loadRegistry_eq`).
-/

namespace StackPlaybook

/-! ## What an ID stands for -/

/-- The name and the ARN of what an ID stands for in a registry. -/
def Target.resolve (registry : Registry) (id : String) : Except Error (String × String) :=
  (Target.parse id).bind fun target => (target.name registry).bind fun name =>
    (target.arnText registry).map fun arn => (name, arn)

/-- The ways in which an ID may stand for nothing. -/
inductive Target.Unresolved (id stack : String) : Error → Prop
  | invalidArn (segments : Nat) : Unresolved id stack (.invalidArn id segments)
  | resourceNotFound : Unresolved id stack (.resourceNotFound id stack)
  | unsupportedResourceType (resourceType : String) :
      Unresolved id stack (.unsupportedResourceType id resourceType)

namespace Target

variable {id : String} {target : Target} {e : Error}

theorem resolve_of_error (registry : Registry) (h : parse id = .error e) :
    resolve registry id = .error e := by
  rw [resolve, h]
  rfl

theorem resolve_of_ok (registry : Registry) (h : parse id = .ok target) :
    resolve registry id = (target.name registry).bind fun name =>
      (target.arnText registry).map fun arn => (name, arn) := by
  rw [resolve, h]
  rfl

/-- A text is refused for being a malformed ARN, taken as an ARN, or taken as an ID. -/
theorem parse_cases (id : String) :
    (∃ n, parse id = .error (.invalidArn id n)) ∨ (∃ a, parse id = .ok (.arn a)) ∨
      (Text.startsWith id "arn:" = false ∧ parse id = .ok (.logicalId id)) := by
  unfold parse ofArn Arn.parse
  by_cases harn : Text.startsWith id "arn:" = true
  · rw [if_pos harn]
    split
    · exact .inr (.inl ⟨_, rfl⟩)
    · exact .inl ⟨_, rfl⟩
  · rw [if_neg harn]
    exact .inr (.inr ⟨Bool.eq_false_iff.mpr harn, rfl⟩)

/-- A resource that is found has a name; it has an ARN unless its type is unsupported. -/
theorem resolve_logicalId (registry : Registry) (h : parse id = .ok (.logicalId id)) :
    resolve registry id = (find registry id).bind fun r =>
      (arnOf registry id r).map fun arn => (r.physicalId, arn) := by
  rw [resolve_of_ok registry h, name, arnText]
  cases find registry id <;> rfl

/-- An ID stands for nothing for one of three reasons. -/
theorem unresolved_of_resolve {registry : Registry} (h : resolve registry id = .error e) :
    Unresolved id registry.stackName e := by
  obtain ⟨n, hparse⟩ | ⟨a, hparse⟩ | ⟨-, hparse⟩ := parse_cases id
  · rw [resolve_of_error registry hparse] at h
    obtain rfl := Except.error.inj h
    exact .invalidArn n
  · rw [resolve_of_ok registry hparse] at h
    cases h
  · rw [resolve_logicalId registry hparse] at h
    obtain hfind | ⟨r, -, harn⟩ := bind_eq_error_iff.mp h
    · obtain ⟨-, rfl⟩ := find_eq_error_iff.mp hfind
      exact .resourceNotFound
    · obtain ⟨-, -, rfl⟩ := arnOf_eq_error_iff.mp (map_eq_error_iff.mp harn)
      exact .unsupportedResourceType r.resourceType

end Target

/-! ## Documents of a stack -/

/-- The texts that a registry is made from. -/
structure Documents where
  described : String
  manifest : Option String

namespace Documents

/-- The registry that the texts give. -/
def registry (d : Documents) (stack region : String) : Except Error Registry :=
  (Registry.ofDocument d.described stack region).bind fun registry =>
    match d.manifest with
    | none => .ok registry
    | some text => (Manifest.parse text).map registry.withManifest

end Documents

section Hosts

variable {ω : Type} [Host ω]

/-- Asked for a stack, the describer gives a document. -/
inductive Describer.Gives (stack region document : String) : Describer → ω → ω → Prop
  | file {path : String} {w : ω} (text : textOf path (Host.readFile path w).1 = .ok document) :
      Gives stack region document (.file path) w (Host.readFile path w).2
  | program {name : String} {w : ω} {finished : Finished}
      (ended : (Host.spawn name (arguments stack region) w).1 = .ok finished)
      (success : finished.success = true) (text : finished.stdout.decodeLossy = document) :
      Gives stack region document (.program name) w
        (Host.spawn name (arguments stack region) w).2

/-- A describer gives the document of a stack, and then a file the manifest, if there is
one. -/
inductive Supplied (stack region : String) (describer : Describer) :
    Option String → Documents → ω → ω → Prop
  | plain {document : String} {w w' : ω} (described : describer.Gives stack region document w w') :
      Supplied stack region describer none ⟨document, none⟩ w w'
  | mapped {document path text : String} {w w' : ω}
      (described : describer.Gives stack region document w w')
      (manifest : textOf path (Host.readFile path w').1 = .ok text) :
      Supplied stack region describer (some path) ⟨document, some text⟩ w
        (Host.readFile path w').2

/-- A host on which the documents of a stack in a region are found, where the settings say,
or a command or playbook in place of them. -/
structure Served (settings : Settings) (stack : String) (given resources manifest : Option String)
    (region : String) (documents : Documents) (w w' : ω) : Prop where
  region_eq : given.getD settings.stack.region = region
  supplied : ∃ describer, settings.stack.choose resources = .ok describer ∧
    Supplied stack region describer manifest documents w w'

/-! ## Loading -/

/-- A session in which only the host has gone on, and nothing was shown. -/
structure Unshown (s : Session ω) (w : ω) (t : Session ω) : Prop where
  host : t.host = w
  notices : t.notices = s.notices

theorem Session.logAll_eq (events : List Log.Event) (s : Session ω) :
    Environment.logAll events s = { s with journal := s.journal ++ events } := by
  unfold Environment.logAll
  induction events generalizing s with
  | nil => simp
  | cons e events ih =>
      rw [List.foldl_cons, ih]
      simp [Environment.log]

/-- A describer that gives a document describes the stack as the document does, and shows nothing.
-/
theorem Describer.describe_of_gives {d : Describer} {stack region document : String}
    {s : Session ω} {w : ω} (h : d.Gives stack region document s.host w) :
    ∃ t, Unshown s w t ∧
      d.describe stack region s = (StackDescription.parse document stack region, t) := by
  generalize hs : s.host = v at h
  cases h with
  | @file path _ text =>
      subst hs
      have hread : Host.readFile path s =
        ((Host.readFile path s.host).1, { s with host := (Host.readFile path s.host).2 }) := rfl
      simp only [describe, Act.bind_apply, readText_apply, hread, text, read_apply,
        Session.logAll_eq]
      exact ⟨_, by constructor <;> rfl, rfl⟩
  | @program name _ finished ended success text =>
      subst hs
      have hspawn (u : Session ω) : Host.spawn name (arguments stack region) u =
        ((Host.spawn name (arguments stack region) u.host).1,
          { u with host := (Host.spawn name (arguments stack region) u.host).2 }) := rfl
      have hlog (e : Log.Event) :
          Environment.log e s = { s with journal := s.journal ++ [e] } := rfl
      simp only [describe, ask_apply, hlog, hspawn, ended, told, heard, success, if_true, text,
        Session.logAll_eq]
      exact ⟨_, by constructor <;> rfl, rfl⟩

namespace Registry

/-- Loads a stack and its manifest, as the settings have it where nothing is given. -/
def fetch {σ : Type} [Environment σ] (settings : Settings) (stack : String)
    (given resources manifest : Option String) : Act σ Registry := do
  let describer ← .ofExcept (settings.stack.choose resources)
  let registry ← load describer stack (given.getD settings.stack.region)
  match manifest with
  | none => return registry
  | some path => return registry.withManifest (← Manifest.load path)

/-- From a describer that gives a document the registry of the document is loaded. -/
theorem load_of_gives {d : Describer} {stack region document : String} {s : Session ω} {w : ω}
    (h : d.Gives stack region document s.host w) {registry : Registry}
    (hregistry : ofDocument document stack region = .ok registry) :
    ∃ t, Unshown s w t ∧ load d stack region s = (.ok registry, t) := by
  obtain ⟨t, ht, hdescribe⟩ := Describer.describe_of_gives h
  obtain ⟨description, hparsed, hfilled⟩ := exists_of_bind_eq_ok hregistry
  simp only [load, Act.bind_apply, hdescribe, hparsed, Act.ofExcept_apply, hfilled,
    Act.change_apply, Act.pure_apply]
  refine ⟨_, ?_, rfl⟩
  exact ⟨ht.host, ht.notices⟩

/-- **Loading** gives the registry of the documents that are handed out. -/
theorem exists_fetch {settings : Settings} {stack region : String}
    {given resources manifest : Option String} {documents : Documents} {s : Session ω} {w : ω}
    (h : Served settings stack given resources manifest region documents s.host w)
    {registry : Registry} (hregistry : documents.registry stack region = .ok registry) :
    ∃ t, Unshown s w t ∧ fetch settings stack given resources manifest s = (.ok registry, t) := by
  obtain ⟨rfl, describer, hchosen, hsupplied⟩ := h
  generalize hs : s.host = v at hsupplied
  obtain ⟨first, hfirst, hmanifest⟩ := exists_of_bind_eq_ok hregistry
  simp only [fetch, Act.bind_apply, Act.ofExcept_apply, hchosen]
  cases hsupplied with
  | plain described =>
      subst hs
      obtain ⟨t, ht, hload⟩ := load_of_gives described hfirst
      obtain rfl := Except.ok.inj hmanifest
      rw [hload]
      exact ⟨t, ht, rfl⟩
  | @mapped document path text _ w' described manifest =>
      subst hs
      obtain ⟨t, ht, hload⟩ := load_of_gives described hfirst
      obtain ⟨parsed, hparsed, rfl⟩ := exists_of_map_eq_ok hmanifest
      have hread : Host.readFile path t = ((Host.readFile path w').1,
          { t with host := (Host.readFile path w').2 }) := by
        rw [← ht.host]
        rfl
      simp only [hload, Act.bind_apply, manifest_load_apply, hread, manifest]
      rw [show (Except.ok text).bind Manifest.parse = _ from hparsed]
      refine ⟨_, ?_, rfl⟩
      exact ⟨rfl, ht.notices⟩

end Registry

/-- The command loads a stack so. -/
theorem Command.registryFor_some (settings : Settings) (id : String) (target : Target)
    (stack : String) (source : StackSource) (manifest : Option String) (s : Session ω) :
    Command.registryFor settings id target (some stack) source manifest s =
      Registry.fetch settings stack source.region source.resources manifest s := by
  simp only [Command.registryFor, Command.loadRegistry, Registry.fetch, Act.bind_apply,
    Act.ofExcept_apply]
  cases settings.stack.choose source.resources with
  | error e => rfl
  | ok describer =>
      simp only
      rcases Registry.load describer stack (source.region.getD settings.stack.region) s with
        ⟨e | registry, t⟩
      · rfl
      · cases manifest <;> rfl

/-- So does the command that lists it, without a manifest. -/
theorem Command.loadRegistry_eq (settings : Settings) (stack : String) (source : StackSource)
    (s : Session ω) :
    Command.loadRegistry settings stack source s =
      Registry.fetch settings stack source.region source.resources none s := by
  simp [Command.loadRegistry, Registry.fetch]

/-- A playbook loads its stack so. -/
theorem PlaybookFile.loadRegistry_eq (file : PlaybookFile) (settings : Settings) (folder : String)
    (s : Session ω) :
    file.loadRegistry settings folder s = Registry.fetch settings file.stack.name file.stack.region
      (file.stack.resourcesFile.map (Path.resolve folder))
      (file.stack.manifest.map (Path.resolve folder)) s := by
  unfold PlaybookFile.loadRegistry Registry.fetch
  cases file.stack.manifest <;> rfl

end Hosts

end StackPlaybook
