import StackPlaybook.Proofs.Run.Resolution
import StackPlaybook.Proofs.Stack.Lookup

/-!
# StackPlaybook.Proofs.Run.Listing

What the `resources` command prints of a document, with colours off.

* `Latest` — the last resource of a document under its logical ID, of those that have a physical
  ID; `latest?_eq_some_iff_latest` — these are the ones that a registry keeps.
* `Row` — a resource with its physical ID from a column on; `row_render` — the column is the same
  in rows of one width, as long as no logical ID has more characters than that.
* `Tabulated` — the table of a document; `tabulated_body` — which is what is shown of a registry,
  where the width is taken in bytes.
* `tabulated_dispatch` — so the command prints it.
-/

namespace StackPlaybook

/-! ## The resources of a document -/

/-- The last resource of a document under its logical ID, of those that have a physical ID. -/
def Latest (listed : List DescribedResource) (r : Resource) : Prop :=
  ∃ before x after, listed = before ++ x :: after ∧ x.logicalId = r.logicalId ∧
    x.physicalId = some r.physicalId ∧ x.resourceType = r.resourceType ∧
    ∀ y ∈ after, y.logicalId = r.logicalId → y.physicalId = none

namespace DescribedResource

variable {x : DescribedResource} {r : Resource}

/-- A resource of a document is kept with its logical ID, physical ID and type. -/
theorem deployed?_eq_some_iff : x.deployed? = some r ↔
    x.logicalId = r.logicalId ∧ x.physicalId = some r.physicalId ∧
      x.resourceType = r.resourceType := by
  rw [deployed?, Option.map_eq_some_iff]
  constructor
  · rintro ⟨physicalId, hphysical, rfl⟩
    exact ⟨rfl, hphysical, rfl⟩
  · rintro ⟨hid, hphysical, htype⟩
    exact ⟨r.physicalId, hphysical, by rw [hid, htype]⟩

theorem deployed?_eq_none_iff : x.deployed? = none ↔ x.physicalId = none := by simp [deployed?]

end DescribedResource

namespace StackDescription

variable {document stack region : String} {listed : List DescribedResource}
  {d : StackDescription} {r : Resource}

/-- The resources of a description are those of its document that have a physical ID. -/
theorem exists_listing_of_parse (h : parse document stack region = .ok d) :
    ∃ listed, listing.run? document = some listed ∧
      d.resources = listed.filterMap (·.deployed?) := by
  unfold parse at h
  cases hread : listing.run? document with
  | none => simp [hread] at h
  | some listed =>
      simp only [hread, ofListing] at h
      split at h
      · cases h
      · split at h
        · cases h
        · exact ⟨listed, rfl, by rw [← Except.ok.inj h]⟩

/-- The latest resource of a description is the latest one of its document that has a physical ID.
-/
theorem latest?_eq_some_iff_latest (h : d.resources = listed.filterMap (·.deployed?)) :
    d.latest? r.logicalId = some r ↔ Latest listed r := by
  simp only [latest?_eq_some_iff, h, Latest, true_and]
  constructor
  · rintro ⟨_, after, hsplit, hafter⟩
    obtain ⟨_, rest, rfl, -, hrest⟩ := List.filterMap_eq_append_iff.mp hsplit
    obtain ⟨skipped, x, later, rfl, -, hx, rfl⟩ := List.filterMap_eq_cons_iff.mp hrest
    obtain ⟨hid, hphysical, htype⟩ := DescribedResource.deployed?_eq_some_iff.mp hx
    refine ⟨_ ++ skipped, x, later, (List.append_assoc ..).symm, hid, hphysical, htype, ?_⟩
    intro y hy hsame
    rw [← DescribedResource.deployed?_eq_none_iff, Option.eq_none_iff_forall_ne_some]
    intro r' hr'
    have hne := hafter r' (List.mem_filterMap.mpr ⟨y, hy, hr'⟩)
    exact hne ((DescribedResource.deployed?_eq_some_iff.mp hr').1.symm.trans hsame)
  · rintro ⟨before, x, later, rfl, hid, hphysical, htype, hlater⟩
    have hx := DescribedResource.deployed?_eq_some_iff.mpr ⟨hid, hphysical, htype⟩
    refine ⟨before.filterMap (·.deployed?), later.filterMap (·.deployed?), ?_, ?_⟩
    · rw [List.filterMap_append, List.filterMap_cons_some hx]
    · intro r' hr' hsame
      obtain ⟨y, hy, hyr⟩ := List.mem_filterMap.mp hr'
      obtain ⟨hyid, hyphysical, -⟩ := DescribedResource.deployed?_eq_some_iff.mp hyr
      rw [hlater y hy (hyid.trans hsame)] at hyphysical
      cases hyphysical

end StackDescription

namespace Registry.Mirrors

variable {d : StackDescription} {stack : String} {registry : Registry}

/-- A registry lists each logical ID of its description once. -/
theorem existsUnique (h : Mirrors d stack registry) {x : Resource} (hx : x ∈ d.resources) :
    ∃! r, r ∈ registry.resources ∧ r.logicalId = x.logicalId := by
  cases hlatest : d.latest? x.logicalId with
  | none => exact absurd rfl (StackDescription.latest?_eq_none_iff.mp hlatest x hx)
  | some r =>
      have hid := StackDescription.logicalId_of_latest? hlatest
      refine ⟨r, ⟨by rw [h.mem_resources, hid, hlatest], hid⟩, fun r' ⟨hr', hid'⟩ => ?_⟩
      rw [h.mem_resources, hid', hlatest] at hr'
      exact (Option.some.inj hr').symm

/-- A registry is empty just if its description is. -/
theorem resources_eq_nil_iff (h : Mirrors d stack registry) :
    registry.resources = [] ↔ d.resources = [] := by
  simp only [List.eq_nil_iff_forall_not_mem]
  constructor
  · intro hnone x hx
    obtain ⟨r, ⟨hr, -⟩, -⟩ := h.existsUnique hx
    exact hnone r hr
  · intro hnone r hr
    rw [h.mem_resources, StackDescription.latest?_eq_some_iff] at hr
    obtain ⟨_, _, hsplit, -⟩ := hr
    exact hnone r (by simp [hsplit])

end Registry.Mirrors

/-! ## Rows -/

/-- A row: the logical ID, the physical ID from a column on, with two blanks at least between
them, and the type.  It is one line if there are no line breaks in these. -/
structure Row (column : Nat) (r : Resource) (text : String) : Prop where
  written : ∃ lead blanks, text = lead ++ r.physicalId ++ "  " ++ r.resourceType ++ "\n" ∧
    lead = "  " ++ r.logicalId ++ String.ofList (List.replicate blanks ' ') ∧ 2 ≤ blanks ∧
    lead.length = column
  line : '\n' ∉ r.logicalId.toList → '\n' ∉ r.physicalId.toList → '\n' ∉ r.resourceType.toList →
    text.toList.count '\n' = 1

/-- **A row of a listing** has its physical ID in the same column as any other of that width. -/
theorem row_render {width : Nat} {r : Resource} (h : r.logicalId.length ≤ width) :
    Row (width + 4) r (Notice.render false (.row width r)) := by
  rw [Notice.render_row]
  refine ⟨⟨"  " ++ Notice.padTo width r.logicalId ++ "  ", width - r.logicalId.length + 2, rfl,
    ?_, by omega, ?_⟩, fun hid hphysical htype => ?_⟩
  · rw [← String.toList_inj]
    simp [Notice.padTo, List.replicate_add]
  · have hblanks : "  ".length = 2 := rfl
    simp [Notice.length_padTo h, hblanks]
    omega
  · simp [Notice.padTo, List.count_eq_zero.mpr hid, List.count_eq_zero.mpr hphysical,
      List.count_eq_zero.mpr htype, List.count_replicate]

/-! ## The listing -/

/-- The listing of a document below its header: a row for each logical ID that has a resource with
a physical ID, in ascending order, with the last of these resources.  All physical IDs start in
one column, four after the bytes of the longest logical ID. -/
structure Tabulated (listed : List DescribedResource) (shown : List Resource) (column : Nat)
    (body : String) : Prop where
  latest : ∀ r, r ∈ shown ↔ Latest listed r
  once : ∀ x ∈ listed, x.physicalId.isSome = true → ∃! r, r ∈ shown ∧ r.logicalId = x.logicalId
  ascending : shown.Pairwise fun r r' => r.logicalId < r'.logicalId
  rows : shown ≠ [] → ∃ text : Resource → String, body = String.join (shown.map text) ∧
    ∀ r ∈ shown, Row column r (text r)
  within : ∀ r ∈ shown, r.logicalId.utf8ByteSize + 4 ≤ column
  widest : shown ≠ [] → ∃ r ∈ shown, r.logicalId.utf8ByteSize + 4 = column
  empty_iff : body = "No resources\n" ↔ ∀ x ∈ listed, x.physicalId = none

namespace Command

/-- What is shown below the header of a listing. -/
def body (resources : List Resource) : List Notice :=
  if resources.isEmpty then [.noResources] else resources.map (.row (columnWidth resources))

theorem listing_eq (registry : Registry) :
    listing false registry =
      .stackHeader registry.stackName registry.region registry.account ::
        body registry.resources := rfl

/-- The listing says that there are no resources just if there are none. -/
theorem renderAll_body_eq_iff {resources : List Resource} :
    Notice.renderAll false (body resources) = "No resources\n" ↔ resources = [] := by
  cases resources with
  | nil => exact iff_of_true rfl rfl
  | cons r resources =>
      -- The first character tells a row from the word.
      have hblank (rest : String) : "  " ++ rest ≠ "No resources\n" := fun h => by
        have := congrArg (·.toList.head?) h
        simp at this
      rw [body, List.isEmpty_cons, if_neg Bool.false_ne_true, List.map_cons, Notice.renderAll_cons,
        Notice.render_row]
      simp only [String.append_assoc, hblank, reduceCtorEq]

end Command

/-- **The table of a registry**: what is shown below the header of a registry that mirrors a
description is the table of the document. -/
theorem tabulated_body {listed : List DescribedResource} {d : StackDescription} {stack : String}
    {registry : Registry} (h : Registry.Mirrors d stack registry)
    (hkept : d.resources = listed.filterMap (·.deployed?)) :
    Tabulated listed registry.resources (Command.columnWidth registry.resources + 4)
      (Notice.renderAll false (Command.body registry.resources)) where
  latest := fun r => by
    rw [h.mem_resources, StackDescription.latest?_eq_some_iff_latest hkept]
  once := fun x hx hphysical => by
    obtain ⟨physicalId, hid⟩ := Option.isSome_iff_exists.mp hphysical
    have hdeployed : ⟨x.logicalId, physicalId, x.resourceType⟩ ∈ d.resources := by
      rw [hkept, List.mem_filterMap]
      exact ⟨x, hx, DescribedResource.deployed?_eq_some_iff.mpr ⟨rfl, hid, rfl⟩⟩
    exact h.existsUnique hdeployed
  ascending := h.ascending
  rows := fun hne => by
    refine ⟨fun r => Notice.render false (.row (Command.columnWidth registry.resources) r), ?_, ?_⟩
    · simp [Command.body, hne, Notice.renderAll, Function.comp_def]
    · intro r hr
      exact row_render ((Bytes.length_le_utf8ByteSize _).trans (Command.le_columnWidth hr))
  within := fun r hr => Nat.add_le_add_right (Command.le_columnWidth hr) 4
  widest := fun hne => by
    obtain ⟨r, hr, hwidth⟩ := Command.exists_eq_columnWidth hne
    exact ⟨r, hr, by rw [hwidth]⟩
  empty_iff := by
    rw [Command.renderAll_body_eq_iff, h.resources_eq_nil_iff, hkept, List.filterMap_eq_nil_iff]
    simp only [DescribedResource.deployed?_eq_none_iff]

/-! ## The command -/

/-- The header of a listing. -/
def Command.header (stack region account : String) : String :=
  "Stack: " ++ stack ++ " (" ++ region ++ ", account " ++ account ++ ")\n"

section Hosts

variable {ω : Type} [Host ω]

/-- Notices that are shown one by one are added in order. -/
theorem Session.forM_display (notices : List Notice) (s : Session ω) :
    (notices.forM Command.display : Act (Session ω) Unit) s =
      (.ok (), { s with notices := s.notices ++ notices }) := by
  induction notices generalizing s with
  | nil => simp
  | cons n notices ih =>
      change (Command.display n >>= fun _ => notices.forM Command.display) s = _
      rw [Act.bind_apply, Command.display, Act.change_apply]
      simp [ih, Environment.display]

/-- **The listing of a document**, whatever the document says.  Where a stack is loaded from it,
the command succeeds, and prints the header and then the table of the document. -/
theorem tabulated_dispatch {document stack region : String} {registry : Registry}
    (hregistry : Registry.ofDocument document stack region = .ok registry) {settings : Settings}
    {source : StackSource} {before s : Session ω} {w : ω}
    (hload : Settings.load before = (.ok settings, s))
    (hserved : Served settings stack source.region source.resources none region ⟨document, none⟩
      s.host w) :
    ∃ t listed shown column body,
      (Command.resources stack source false).dispatch before = (.ok (), t) ∧
      StackDescription.listing.run? document = some listed ∧
      t.stdout false = before.stdout false ++ Command.header stack region registry.account ++ body ∧
      Tabulated listed shown column body := by
  have hdocuments : (Documents.mk document none).registry stack region = .ok registry :=
    congrArg (Except.bind · Except.ok) hregistry
  obtain ⟨t, ht, hfetch⟩ := Registry.exists_fetch hserved hdocuments
  obtain ⟨d, hparse, hfilled⟩ := exists_of_bind_eq_ok hregistry
  obtain ⟨listed, hread, hkept⟩ := StackDescription.exists_listing_of_parse hparse
  have hmirrors := Registry.mirrors_of_ok hfilled
  have hquiet : t.notices = before.notices := by
    rw [ht.notices, ← Settings.notices_load before, hload]
  refine ⟨{ t with notices := t.notices ++ Command.listing false registry }, listed,
    registry.resources, _, _, ?_, hread, ?_, tabulated_body hmirrors hkept⟩
  · rw [Command.dispatch, Act.bind_apply, hload]
    simp only [Command.perform, Command.listResources, Act.bind_apply, Command.loadRegistry_eq,
      hfetch, Session.forM_display]
  · obtain ⟨stackArn, -, rfl⟩ := Registry.exists_of_ofDescription hfilled
    rw [Session.stdout, hquiet, Notice.renderAll_append, Command.listing_eq, Notice.renderAll_cons,
      ← String.append_assoc]
    rfl

end Hosts

/-! ### A topic with an accent -/

namespace Accents

open Rehearsal

/-- A document that lists a topic three times, the last time without a physical ID. -/
def document : String :=
  "\x7b\"StackResources\":[
    \x7b\"StackId\":\"arn:aws:c:r:1:s\",\"LogicalResourceId\":\"Café\",
    \"PhysicalResourceId\":\"old\",\"ResourceType\":\"AWS::SNS::Topic\"\x7d,
    \x7b\"LogicalResourceId\":\"Bar\",\"PhysicalResourceId\":\"bar\",
    \"ResourceType\":\"AWS::SQS::Queue\"\x7d,
    \x7b\"LogicalResourceId\":\"Café\",\"PhysicalResourceId\":\"new\",
    \"ResourceType\":\"AWS::SNS::Topic\"\x7d,
    \x7b\"LogicalResourceId\":\"Café\",\"ResourceType\":\"AWS::SNS::Topic\"\x7d]\x7d"

/-- The resources of the document that have a physical ID. -/
def resources : List Resource :=
  [⟨"Café", "old", "AWS::SNS::Topic"⟩, ⟨"Bar", "bar", "AWS::SQS::Queue"⟩,
    ⟨"Café", "new", "AWS::SNS::Topic"⟩]

def registry : Registry :=
  ⟨"orders", "r", "1", .ofList (resources.map fun r => (r.logicalId, r)), none⟩

set_option maxRecDepth 8000 in
theorem parse_document :
    StackDescription.parse document "orders" "r" = .ok ⟨"arn:aws:c:r:1:s", resources⟩ := by
  have hread : StackDescription.listing.run? document = some
      [⟨none, some "arn:aws:c:r:1:s", "Café", some "old", "AWS::SNS::Topic"⟩,
        ⟨none, none, "Bar", some "bar", "AWS::SQS::Queue"⟩,
        ⟨none, none, "Café", some "new", "AWS::SNS::Topic"⟩,
        ⟨none, none, "Café", none, "AWS::SNS::Topic"⟩] := by
    rw [Json.Reader.run?, Json.Tree.parse?, document, String.toList_ofList]
    decide +kernel
  rw [StackDescription.parse, hread]
  rfl

/-- The registry of the document. -/
theorem ofDocument_document : Registry.ofDocument document "orders" "r" = .ok registry := by
  let stackArn : Arn := ⟨"arn:aws:c:r:1:s", by decide, by decide⟩
  have haccount : stackArn.account = "1" := by decide
  have hparse : Arn.parse "arn:aws:c:r:1:s" = .ok stackArn := Arn.parse_text stackArn
  rw [Registry.ofDocument, parse_document, Except.bind, Registry.ofDescription, hparse, registry,
    ← haccount]
  rfl

/-- A stage on which a document lies. -/
def stage : Stage :=
  ⟨.folder [("stack.json", .file document.toUTF8.data.toList false)], 0, default, [], "/home", []⟩

theorem saved : stage.Saved "stack.json" document := ⟨rfl, by decide⟩

-- the accent takes two bytes, and one character
example : Notice.renderAll false (Command.listing false registry) =
    "Stack: orders (r, account 1)\n" ++
    "  Bar    bar  AWS::SQS::Queue\n" ++
    "  Café   new  AWS::SNS::Topic\n" := by decide +kernel

end Accents

open Accents in
/-- The listing of the document on its stage. -/
theorem tabulated_accents :
    let settings := Settings.default "us-east-1"
    let source : StackSource := ⟨some "r", some "stack.json"⟩
    let s := Session.start stage
    Registry.ofDocument document "orders" "r" = .ok registry ∧
      Settings.load s = (.ok settings, s) ∧
      Served settings "orders" source.region source.resources none "r" ⟨document, none⟩ stage
        stage ∧
      ∃ t listed shown column body,
        (Command.resources "orders" source false).dispatch s = (.ok (), t) ∧
        StackDescription.listing.run? document = some listed ∧
        t.stdout false = s.stdout false ++ Command.header "orders" "r" "1" ++ body ∧
        Tabulated listed shown column body := by
  intro settings source s
  have hload := saved.load_settings
  have hserved := saved.served settings "orders" "r"
  exact ⟨ofDocument_document, hload, hserved,
    tabulated_dispatch ofDocument_document hload hserved⟩

end StackPlaybook
