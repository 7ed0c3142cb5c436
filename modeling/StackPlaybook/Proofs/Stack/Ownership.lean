import StackPlaybook.Proofs.Stack.Naming

/-!
# StackPlaybook.Proofs.Stack.Ownership

Whose resources an accepted document lists.  Ownership is decided for each resource alone, by
its stack's name or ID:

* `attributed_parse` — a document is accepted just if none of its resources is named as another
  stack's and one of them has a stack ID, the first of which becomes that of the description;
* `Describes.of_stackId` — so where a stack is asked for by its ID, and no resource has a stack ID
  without naming its stack, that ID is the only one in the document;
* `Describes.account` — and where there is one ID only, the registry has its account;
* `accounts_mixed` — but one name may stand for two stacks, and a resource that does not name its
  stack is taken whatever stack ID it has.
-/

namespace StackPlaybook

/-! ## Ownership -/

/-- What is asked of a resource: if it names its stack, then under the name that is asked for,
or with that for its stack ID. -/
def DescribedResource.Owned (r : DescribedResource) (stack : String) : Prop :=
  ∀ name, r.stackName = some name → name = stack ∨ r.stackId = some stack

theorem DescribedResource.belongsTo_iff {r : DescribedResource} {stack : String} :
    r.belongsTo stack = true ↔ r.Owned stack := by
  unfold belongsTo Owned
  cases r.stackName with
  | none => simp
  | some name => simp

/-- No resource of the list has a stack ID but this one. -/
def OneStack (listed : List DescribedResource) (stackId : String) : Prop :=
  ∀ r ∈ listed, ∀ id, r.stackId = some id → id = stackId

namespace StackDescription

variable {listed : List DescribedResource} {stack region : String} {d : StackDescription}

/-- The description of a stack that a list of resources is accepted as. -/
structure Describes (listed : List DescribedResource) (stack : String) (d : StackDescription) :
    Prop where
  owned : ∀ r ∈ listed, r.Owned stack
  /-- The stack ID is the first in the list. -/
  first : ∃ before r after, listed = before ++ r :: after ∧ r.stackId = some d.stackId ∧
    ∀ x ∈ before, x.stackId = none
  kept : d.resources = listed.filterMap (·.deployed?)

namespace Describes

/-- The stack ID of a description is that of a resource. -/
theorem exists_stackId (h : Describes listed stack d) :
    ∃ r ∈ listed, r.stackId = some d.stackId := by
  obtain ⟨before, r, after, rfl, hr, -⟩ := h.first
  exact ⟨r, by simp, hr⟩

/-- If there is one stack ID only, then it is the one of the description. -/
theorem stackId_eq (h : Describes listed stack d) {stackId : String}
    (hone : OneStack listed stackId) : d.stackId = stackId := by
  obtain ⟨r, hr, hid⟩ := h.exists_stackId
  exact hone r hr d.stackId hid

/-- If there is one stack ID at all, it is that of the description. -/
theorem oneStack_iff (h : Describes listed stack d) :
    OneStack listed d.stackId ↔ ∃ stackId, OneStack listed stackId := by
  refine ⟨fun hone => ⟨_, hone⟩, fun ⟨stackId, hone⟩ => ?_⟩
  rw [h.stackId_eq hone]
  exact hone

/-- What is asked for is no resource's stack name: then it is the stack ID of each that has a
stack name. -/
theorem stackId_of_stackName (h : Describes listed stack d)
    (hstack : ∀ r ∈ listed, r.stackName ≠ some stack) (r : DescribedResource) (hr : r ∈ listed)
    (name : String) (hname : r.stackName = some name) : r.stackId = some stack := by
  obtain rfl | hid := h.owned r hr name hname
  · exact absurd hname (hstack r hr)
  · exact hid

/-- If moreover each that has a stack ID has a stack name, then it is the only stack ID. -/
theorem of_stackId (h : Describes listed stack d)
    (hstack : ∀ r ∈ listed, r.stackName ≠ some stack)
    (hnamed : ∀ r ∈ listed, r.stackId.isSome = true → r.stackName.isSome = true) :
    d.stackId = stack ∧ OneStack listed stack := by
  have hone : OneStack listed stack := fun r hr id hid => by
    obtain ⟨name, hname⟩ := Option.isSome_iff_exists.mp (hnamed r hr (by rw [hid]; rfl))
    exact Option.some.inj (hid.symm.trans (h.stackId_of_stackName hstack r hr name hname))
  exact ⟨h.stackId_eq hone, hone⟩

/-- The account of the registry is that of every stack ID, if there is one only. -/
theorem account (hone : OneStack listed d.stackId) {registry : Registry}
    (hregistry : Registry.ofDescription stack region d = .ok registry) (r : DescribedResource)
    (hr : r ∈ listed) (id : String) (hid : r.stackId = some id) :
    ∃ stackArn, Arn.parse id = .ok stackArn ∧ registry.account = stackArn.account := by
  obtain ⟨stackArn, hparse, rfl⟩ := Registry.exists_of_ofDescription hregistry
  rw [hone r hr id hid]
  exact ⟨stackArn, hparse, rfl⟩

end Describes

/-! ## Documents -/

/-- What a description says of the stacks in a list that is accepted. -/
structure Attribution (listed : List DescribedResource) (stack region : String)
    (d : StackDescription) : Prop extends Describes listed stack d where
  stackId_of_stackName : (∀ r ∈ listed, r.stackName ≠ some stack) →
    ∀ r ∈ listed, ∀ name, r.stackName = some name → r.stackId = some stack
  of_stackId : (∀ r ∈ listed, r.stackName ≠ some stack) →
    (∀ r ∈ listed, r.stackId.isSome = true → r.stackName.isSome = true) →
      d.stackId = stack ∧ OneStack listed stack
  oneStack_iff : OneStack listed d.stackId ↔ ∃ stackId, OneStack listed stackId
  account : OneStack listed d.stackId → ∀ registry,
    Registry.ofDescription stack region d = .ok registry → ∀ r ∈ listed, ∀ id,
      r.stackId = some id → ∃ stackArn, Arn.parse id = .ok stackArn ∧
        registry.account = stackArn.account

/-- A list that describes a stack is attributed to it. -/
theorem Describes.attribution (h : Describes listed stack d) (region : String) :
    Attribution listed stack region d where
  toDescribes := h
  stackId_of_stackName := h.stackId_of_stackName
  of_stackId := h.of_stackId
  oneStack_iff := h.oneStack_iff
  account := fun hone _ hregistry => Describes.account hone hregistry

/-- What comes of a document for a stack. -/
inductive Attributed (document stack region : String) : Except Error StackDescription → Prop
  | unreadable (read : listing.run? document = none) :
      Attributed document stack region (.error (.stackDescribe stack Error.unreadable))
  | foreign {listed : List DescribedResource} (read : listing.run? document = some listed)
      (foreign : ∃ r ∈ listed, ¬ r.Owned stack) :
      Attributed document stack region (.error (.stackNotFound stack region))
  | anonymous {listed : List DescribedResource} (read : listing.run? document = some listed)
      (owned : ∀ r ∈ listed, r.Owned stack) (bare : ∀ r ∈ listed, r.stackId = none) :
      Attributed document stack region
        (.error (.stackDescribe stack "no stack ID in describe output"))
  | accepted {listed : List DescribedResource} {d : StackDescription}
      (read : listing.run? document = some listed) (attribution : Attribution listed stack region d) :
      Attributed document stack region (.ok d)

/-- **Whose resources a document lists**: it is refused where a resource is named as another
stack's without having the ID asked for, or where none has a stack ID, and otherwise described
under the first stack ID in it. -/
theorem attributed_parse (document stack region : String) :
    Attributed document stack region (parse document stack region) := by
  unfold parse
  cases hread : listing.run? document with
  | none => exact .unreadable hread
  | some listed =>
      change Attributed document stack region (ofListing listed stack region)
      unfold ofListing
      by_cases hforeign : listed.any (fun r => !r.belongsTo stack) = true
      · rw [if_pos hforeign]
        obtain ⟨r, hr, hnot⟩ := List.any_eq_true.mp hforeign
        refine .foreign hread ⟨r, hr, fun howned => ?_⟩
        rw [DescribedResource.belongsTo_iff.mpr howned] at hnot
        cases hnot
      · rw [if_neg hforeign]
        have howned : ∀ r ∈ listed, r.Owned stack := by
          simpa [DescribedResource.belongsTo_iff] using hforeign
        cases hid : listed.findSome? (·.stackId) with
        | none => exact .anonymous hread howned (List.findSome?_eq_none_iff.mp hid)
        | some stackId =>
            obtain ⟨before, r, after, hsplit, hr, hbefore⟩ := List.findSome?_eq_some_iff.mp hid
            exact .accepted hread
              (Describes.attribution ⟨howned, ⟨before, r, after, hsplit, hr, hbefore⟩, rfl⟩ region)

/-! ### Two stacks in one document -/

/-- The ID of a stack of the same name in another account. -/
def otherOrdersId : String := "arn:aws:cloudformation:us-east-1:210987654321:stack/orders/9a1d"

/-- A document that lists a table of the one stack and a queue of the other. -/
def twinsDocument : String :=
  "\x7b\"StackResources\":[\x7b\"StackName\":\"orders\",
    \"StackId\":\"arn:aws:cloudformation:us-east-1:123456789012:stack/orders/6f2c\",
    \"LogicalResourceId\":\"Sales\",\"PhysicalResourceId\":\"sales\",
    \"ResourceType\":\"AWS::DynamoDB::Table\"\x7d,\x7b\"StackName\":\"orders\",
    \"StackId\":\"arn:aws:cloudformation:us-east-1:210987654321:stack/orders/9a1d\",
    \"LogicalResourceId\":\"Jobs\",\"PhysicalResourceId\":\"jobs\",
    \"ResourceType\":\"AWS::SQS::Queue\"\x7d]\x7d"

/-- A document that lists the queue alone and does not name its stack. -/
def strayDocument : String :=
  "\x7b\"StackResources\":[\x7b
    \"StackId\":\"arn:aws:cloudformation:us-east-1:210987654321:stack/orders/9a1d\",
    \"LogicalResourceId\":\"Jobs\",\"PhysicalResourceId\":\"jobs\",
    \"ResourceType\":\"AWS::SQS::Queue\"\x7d]\x7d"

/-- The queue of both documents. -/
def otherQueue (stackName : Option String) : DescribedResource :=
  ⟨stackName, some otherOrdersId, "Jobs", some "jobs", "AWS::SQS::Queue"⟩

def jobsQueue : Resource := ⟨"Jobs", "jobs", "AWS::SQS::Queue"⟩

set_option maxRecDepth 4000 in
theorem listing_twins : listing.run? twinsDocument =
    some [⟨some "orders", some Registry.ordersId, "Sales", some "sales", "AWS::DynamoDB::Table"⟩,
      otherQueue (some "orders")] := by
  rw [Json.Reader.run?, Json.Tree.parse?, twinsDocument, String.toList_ofList]
  rfl

set_option maxRecDepth 4000 in
theorem listing_stray : listing.run? strayDocument = some [otherQueue none] := by
  rw [Json.Reader.run?, Json.Tree.parse?, strayDocument, String.toList_ofList]
  rfl

/-- **Two stacks in one document**: asked for by name, resources in two accounts are accepted as
those of one stack; and asked for by ID, a stack is given the resource of another one. -/
theorem accounts_mixed :
    (∃ listed d registry stackArn,
      listing.run? twinsDocument = some listed ∧
      parse twinsDocument "orders" "us-east-1" = .ok d ∧
      otherQueue (some "orders") ∈ listed ∧ otherOrdersId ≠ d.stackId ∧
      Registry.ofDescription "orders" "us-east-1" d = .ok registry ∧
      Arn.parse otherOrdersId = .ok stackArn ∧ registry.account ≠ stackArn.account) ∧
    ∃ d, listing.run? strayDocument = some [otherQueue none] ∧
      parse strayDocument Registry.ordersId "us-east-1" = .ok d ∧
      Text.startsWith Registry.ordersId "arn:" = true ∧
      (otherQueue none).stackName ≠ some Registry.ordersId ∧ d.stackId ≠ Registry.ordersId := by
  constructor
  · let ordersArn : Arn := ⟨Registry.ordersId, by decide, by decide⟩
    let otherArn : Arn := ⟨otherOrdersId, by decide, by decide⟩
    let d : StackDescription := ⟨Registry.ordersId, [Registry.salesTable, jobsQueue]⟩
    have hparse : Arn.parse Registry.ordersId = .ok ordersArn := Arn.parse_text ordersArn
    have hregistry : ∃ registry, Registry.ofDescription "orders" "us-east-1" d = .ok registry ∧
        registry.account = ordersArn.account := by
      rw [Registry.ofDescription, hparse]
      exact ⟨_, rfl, rfl⟩
    obtain ⟨registry, hloaded, haccount⟩ := hregistry
    refine ⟨_, d, registry, otherArn, listing_twins, ?_, by simp, by decide, hloaded,
      Arn.parse_text otherArn, ?_⟩
    · rw [parse, listing_twins]
      rfl
    · rw [haccount]
      decide
  · refine ⟨⟨otherOrdersId, [jobsQueue]⟩, listing_stray, ?_, by decide, by decide, by decide⟩
    rw [parse, listing_stray]
    rfl

end StackDescription

end StackPlaybook
