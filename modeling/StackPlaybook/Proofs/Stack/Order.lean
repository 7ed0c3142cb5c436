import StackPlaybook.Stack.Describe
import StackPlaybook.Template

/-!
# StackPlaybook.Proofs.Stack.Order

The order in which a document lists the resources of a stack does not matter, as long as
it names one stack only and no logical ID twice (`Unambiguous`):

* `ofListing_perm` — two orders are refused with the same error, or accepted with the same
  stack ID and the same resources up to their order;
* `ofDescription_perm` — and that order is lost in the registry;
* `loadedAlike_of_perm` — so no question tells the registries of two orders apart.
-/

namespace StackPlaybook

/-! ## Registries of documents -/

namespace Registry

/-- The registry of a stack in a document. -/
def ofDocument (document stack region : String) : Except Error Registry :=
  (StackDescription.parse document stack region).bind (ofDescription stack region)

/-- Registries between which no question tells a difference. -/
structure Interchangeable (r r' : Registry) : Prop where
  account : r.account = r'.account
  lookup : ∀ id, r.lookup id = r'.lookup id
  resources : r.resources = r'.resources
  name : ∀ target : Target, target.name r = target.name r'
  arnText : ∀ target : Target, target.arnText r = target.arnText r'
  render : ∀ t : Template, t.render r = t.render r'

theorem Interchangeable.refl (r : Registry) : Interchangeable r r :=
  ⟨rfl, fun _ => rfl, rfl, fun _ => rfl, fun _ => rfl, fun _ => rfl⟩

/-- The same failure, or registries that are interchangeable whatever manifest they are
given, if any. -/
inductive LoadedAlike : Except Error Registry → Except Error Registry → Prop
  | failed (e : Error) : LoadedAlike (.error e) (.error e)
  | loaded {r r' : Registry} (same : ∀ manifest : Option Manifest,
      Interchangeable (manifest.elim r r.withManifest) (manifest.elim r' r'.withManifest)) :
      LoadedAlike (.ok r) (.ok r')

theorem LoadedAlike.of_eq {x y : Except Error Registry} (h : x = y) : LoadedAlike x y := by
  subst h
  cases x with
  | error e => exact .failed e
  | ok r => exact .loaded fun manifest => .refl _

end Registry

/-! ## Listings -/

/-- A list of resources that names no more than one stack, and no logical ID twice among
the resources that have a physical ID. -/
structure Unambiguous (listed : List DescribedResource) : Prop where
  stackId : ∀ r ∈ listed, ∀ r' ∈ listed, ∀ id ∈ r.stackId, ∀ id' ∈ r'.stackId, id = id'
  logicalId : ((listed.filter (·.physicalId.isSome)).map (·.logicalId)).Nodup

/-- A search whose finds are all the same does not depend on the order. -/
theorem findSome?_perm {α β : Type} {f : α → Option β} {xs ys : List α} (h : xs.Perm ys)
    (hone : ∀ x ∈ xs, ∀ y ∈ xs, ∀ a ∈ f x, ∀ b ∈ f y, a = b) : xs.findSome? f = ys.findSome? f := by
  cases hx : xs.findSome? f with
  | none =>
      have hnone : ∀ y ∈ ys, f y = none := fun y hy =>
        List.findSome?_eq_none_iff.mp hx y (h.mem_iff.mpr hy)
      exact (List.findSome?_eq_none_iff.mpr hnone).symm
  | some a =>
      obtain ⟨x, hxs, hfx⟩ := List.exists_of_findSome?_eq_some hx
      cases hy : ys.findSome? f with
      | none =>
          have hnone := List.findSome?_eq_none_iff.mp hy x (h.mem_iff.mp hxs)
          rw [hfx] at hnone
          cases hnone
      | some b =>
          obtain ⟨y, hys, hfy⟩ := List.exists_of_findSome?_eq_some hy
          rw [hone x hxs y (h.mem_iff.mpr hys) a hfx b hfy]

/-- The logical IDs of the resources that are kept. -/
theorem logicalIds_deployed (listed : List DescribedResource) :
    (listed.filterMap (·.deployed?)).map (·.logicalId) =
      (listed.filter (·.physicalId.isSome)).map (·.logicalId) := by
  induction listed with
  | nil => rfl
  | cons r listed ih =>
      cases hr : r.physicalId with
      | none => simpa [DescribedResource.deployed?, hr] using ih
      | some id => simpa [DescribedResource.deployed?, hr] using ih

namespace StackDescription

/-- The same stack with the same resources, which have different logical IDs, in any
order. -/
structure Reordered (d d' : StackDescription) : Prop where
  stackId : d.stackId = d'.stackId
  resources : d.resources.Perm d'.resources
  distinct : (d.resources.map (·.logicalId)).Nodup

/-- **Two orders of a listing** are refused alike, or described alike. -/
theorem ofListing_perm {listed listed' : List DescribedResource} (h : listed.Perm listed')
    (hlisted : Unambiguous listed) (stack region : String) :
    (∃ e, ofListing listed stack region = .error e ∧ ofListing listed' stack region = .error e) ∨
      ∃ d d', ofListing listed stack region = .ok d ∧ ofListing listed' stack region = .ok d' ∧
        Reordered d d' := by
  unfold ofListing
  rw [← h.any_eq, ← findSome?_perm h hlisted.stackId]
  by_cases hforeign : listed.any (fun r => !r.belongsTo stack) = true
  · rw [if_pos hforeign, if_pos hforeign]
    exact .inl ⟨_, rfl, rfl⟩
  · rw [if_neg hforeign, if_neg hforeign]
    cases listed.findSome? (·.stackId) with
    | none => exact .inl ⟨_, rfl, rfl⟩
    | some stackId =>
        have hdistinct : ((listed.filterMap (·.deployed?)).map (·.logicalId)).Nodup := by
          rw [logicalIds_deployed]
          exact hlisted.logicalId
        exact .inr ⟨_, _, rfl, rfl, rfl, h.filterMap _, hdistinct⟩

end StackDescription

/-! ## Registries -/

namespace Registry

/-- The registry does not keep the order of a description. -/
theorem ofDescription_perm {d d' : StackDescription} (h : d.Reordered d') (stack region : String) :
    ofDescription stack region d = ofDescription stack region d' := by
  have hkeys : ((d.resources.map fun r => (r.logicalId, r)).map (·.1)).Nodup := by
    rw [List.map_map]
    exact h.distinct
  have htable := Table.ofList_perm (h.resources.map fun r => (r.logicalId, r)) hkeys
  unfold ofDescription
  rw [htable, h.stackId]

/-- **The order of a document does not matter**: two documents that list the same resources
in any order are refused with the same error, or give registries that no question tells
apart. -/
theorem loadedAlike_of_perm {document document' : String} {listed listed' : List DescribedResource}
    (hread : StackDescription.listing.run? document = some listed)
    (hread' : StackDescription.listing.run? document' = some listed')
    (hperm : listed.Perm listed') (hlisted : Unambiguous listed) (stack region : String) :
    LoadedAlike (ofDocument document stack region) (ofDocument document' stack region) := by
  have hparse : StackDescription.parse document stack region =
      StackDescription.ofListing listed stack region := by rw [StackDescription.parse, hread]
  have hparse' : StackDescription.parse document' stack region =
      StackDescription.ofListing listed' stack region := by rw [StackDescription.parse, hread']
  unfold ofDocument
  rw [hparse, hparse']
  obtain ⟨e, he, he'⟩ | ⟨d, d', hd, hd', hsame⟩ :=
    StackDescription.ofListing_perm hperm hlisted stack region
  · rw [he, he']
    exact .failed e
  · rw [hd, hd']
    exact .of_eq (ofDescription_perm hsame stack region)

/-- A document that lists a table before a queue which is not there yet. -/
def tableFirst : String :=
  "\x7b\"StackResources\":[
    \x7b\"StackName\":\"orders\",\"StackId\":\"arn:aws:c:r:1:s\",\"LogicalResourceId\":\"Sales\",
    \"PhysicalResourceId\":\"sales\",\"ResourceType\":\"AWS::DynamoDB::Table\"\x7d,
    \x7b\"LogicalResourceId\":\"Jobs\",\"ResourceType\":\"AWS::SQS::Queue\"\x7d]\x7d"

/-- The same document with the queue before the table. -/
def queueFirst : String :=
  "\x7b\"StackResources\":[
    \x7b\"LogicalResourceId\":\"Jobs\",\"ResourceType\":\"AWS::SQS::Queue\"\x7d,
    \x7b\"StackName\":\"orders\",\"StackId\":\"arn:aws:c:r:1:s\",\"LogicalResourceId\":\"Sales\",
    \"PhysicalResourceId\":\"sales\",\"ResourceType\":\"AWS::DynamoDB::Table\"\x7d]\x7d"

/-- The table of both documents. -/
def listedTable : DescribedResource :=
  ⟨some "orders", some "arn:aws:c:r:1:s", "Sales", some "sales", "AWS::DynamoDB::Table"⟩

/-- The queue of both documents. -/
def listedQueue : DescribedResource := ⟨none, none, "Jobs", none, "AWS::SQS::Queue"⟩

set_option maxRecDepth 4000 in
/-- The one document lists the table first. -/
theorem listing_tableFirst :
    StackDescription.listing.run? tableFirst = some [listedTable, listedQueue] := by
  rw [Json.Reader.run?, Json.Tree.parse?, tableFirst, String.toList_ofList]
  decide +kernel

set_option maxRecDepth 4000 in
/-- The other one lists the queue first. -/
theorem listing_queueFirst :
    StackDescription.listing.run? queueFirst = some [listedQueue, listedTable] := by
  rw [Json.Reader.run?, Json.Tree.parse?, queueFirst, String.toList_ofList]
  decide +kernel

/-- A table and a queue in either order. -/
theorem loadedAlike_swapped :
    StackDescription.listing.run? tableFirst = some [listedTable, listedQueue] ∧
      StackDescription.listing.run? queueFirst = some [listedQueue, listedTable] ∧
      [listedTable, listedQueue].Perm [listedQueue, listedTable] ∧
      Unambiguous [listedTable, listedQueue] ∧
      LoadedAlike (ofDocument tableFirst "orders" "r") (ofDocument queueFirst "orders" "r") := by
  have hperm : [listedTable, listedQueue].Perm [listedQueue, listedTable] :=
    .swap listedQueue listedTable []
  have hone : Unambiguous [listedTable, listedQueue] :=
    ⟨by simp [listedTable, listedQueue], by simp [listedTable, listedQueue]⟩
  exact ⟨listing_tableFirst, listing_queueFirst, hperm, hone,
    loadedAlike_of_perm listing_tableFirst listing_queueFirst hperm hone "orders" "r"⟩

end Registry

end StackPlaybook
