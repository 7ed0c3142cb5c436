import StackPlaybook.Proofs.Stack.Order

/-!
# StackPlaybook.Proofs.Stack.Naming

A stack may be called by its name or by its full ID.

* `parse_eq_of_ok` — a document that is accepted under both is described alike;
* `renamed` — so the two registries are the same but for what they call the stack;
* `eitherWay_of_parse` — without a manifest they answer alike, up to that name where nothing is
  found.  With a manifest they do for an ID just if what is recorded for it under the one and
  under the other leads to the same resource;
* `table_lost_by_stackId` — which it need not, as a manifest knows a stack by one name only.
-/

namespace StackPlaybook

/-! ## Descriptions -/

namespace StackDescription

variable {stack stack' region : String} {d d' : StackDescription}

/-- What a list says of a stack does not depend on what the stack is called. -/
theorem ofListing_eq_of_ok {listed : List DescribedResource}
    (h : ofListing listed stack region = .ok d) (h' : ofListing listed stack' region = .ok d') :
    d = d' := by
  unfold ofListing at h h'
  split at h
  · cases h
  split at h'
  · cases h'
  cases hid : listed.findSome? (·.stackId) with
  | none => rw [hid] at h; cases h
  | some stackId =>
      rw [hid] at h h'
      exact (Except.ok.inj h).symm.trans (Except.ok.inj h')

/-- What a document says of a stack does not depend on what the stack is called. -/
theorem parse_eq_of_ok {document : String} (h : parse document stack region = .ok d)
    (h' : parse document stack' region = .ok d') : d = d' := by
  unfold parse at h h'
  cases hlisted : listing.run? document with
  | none => rw [hlisted] at h; cases h
  | some listed =>
      rw [hlisted] at h h'
      exact ofListing_eq_of_ok h h'

end StackDescription

/-! ## Answers -/

/-- The same, up to what the stack is called where a resource is not found. -/
inductive UpToStack {α : Type} (stack stack' : String) : Except Error α → Except Error α → Prop
  | same (x : Except Error α) : UpToStack stack stack' x x
  | absent (id : String) : UpToStack stack stack' (.error (.resourceNotFound id stack))
      (.error (.resourceNotFound id stack'))

namespace UpToStack

variable {α β : Type} {stack stack' : String} {x y : Except Error α}

theorem bind (h : UpToStack stack stack' x y) (f : α → Except Error β) :
    UpToStack stack stack' (x.bind f) (y.bind f) := by
  cases h with
  | same => exact .same _
  | absent id => exact .absent id

theorem map (h : UpToStack stack stack' x y) (f : α → β) :
    UpToStack stack stack' (x.map f) (y.map f) := by
  cases h with
  | same => exact .same _
  | absent id => exact .absent id

end UpToStack

namespace Registry

/-- The same answers for an ID, up to what the stack is called. -/
structure AnswersAlike (r r' : Registry) (id : String) : Prop where
  lookup : r.lookup id = r'.lookup id
  name : UpToStack r.stackName r'.stackName ((Target.logicalId id).name r)
    ((Target.logicalId id).name r')
  arnText : UpToStack r.stackName r'.stackName ((Target.logicalId id).arnText r)
    ((Target.logicalId id).arnText r')

/-- The registry under another name of the stack. -/
def renamed (r : Registry) (stack : String) : Registry := { r with stackName := stack }

/-- Under another name the registry of a description is the renamed one. -/
theorem ofDescription_renamed (stack stack' region : String) (d : StackDescription) :
    ofDescription stack' region d = (ofDescription stack region d).map (·.renamed stack') := by
  unfold ofDescription
  cases Arn.parse d.stackId <;> rfl

/-- A manifest changes nothing but which ID is looked up. -/
theorem lookup_withManifest {r : Registry} (h : r.manifest = none) (m : Manifest) (id : String) :
    (r.withManifest m).lookup id = r.lookup ((m.logicalId? r.stackName id).getD id) := by
  simp [lookup, translate, withManifest, h]

/-- Without a manifest a look-up does not ask for the name of the stack. -/
theorem lookup_renamed {r : Registry} (h : r.manifest = none) (stack id : String) :
    (r.renamed stack).lookup id = r.lookup id := by
  simp [lookup, translate, renamed, h]

/-- A manifest may be attached before the stack is renamed, or after. -/
theorem withManifest_renamed (r : Registry) (stack : String) (m : Manifest) :
    (r.renamed stack).withManifest m = (r.withManifest m).renamed stack := rfl

/-- A name and an ARN come from the resource that is found. -/
theorem answersAlike_renamed_iff {r : Registry} {stack id : String} :
    AnswersAlike r (r.renamed stack) id ↔ r.lookup id = (r.renamed stack).lookup id := by
  refine ⟨AnswersAlike.lookup, fun h => ?_⟩
  have hfind : UpToStack r.stackName stack (Target.find r id) (Target.find (r.renamed stack) id) := by
    rw [Target.find, Target.find, ← h]
    cases r.lookup id with
    | none => exact .absent id
    | some x => exact .same _
  exact ⟨h, hfind.map _, hfind.bind _⟩

/-- The same failure, or registries that answer alike, as long as no manifest tells them
apart. -/
inductive EitherWay (stack stack' : String) : Except Error Registry → Except Error Registry → Prop
  | failed (e : Error) : EitherWay stack stack' (.error e) (.error e)
  | loaded {r r' : Registry} (plain : ∀ id, AnswersAlike r r' id)
      (translated : ∀ (m : Manifest) (id : String),
        AnswersAlike (r.withManifest m) (r'.withManifest m) id ↔
          r.lookup ((m.logicalId? stack id).getD id) = r.lookup ((m.logicalId? stack' id).getD id)) :
      EitherWay stack stack' (.ok r) (.ok r')

/-- **A stack under two names** that a document is accepted for: the same failure, or the same
answers.  A manifest keeps the answers the same for just those IDs for which both names of the
stack lead to the same resource. -/
theorem eitherWay_of_parse {document stack stack' region : String} {d d' : StackDescription}
    (h : StackDescription.parse document stack region = .ok d)
    (h' : StackDescription.parse document stack' region = .ok d') :
    EitherWay stack stack' (ofDocument document stack region)
      (ofDocument document stack' region) := by
  obtain rfl := StackDescription.parse_eq_of_ok h h'
  rw [ofDocument, ofDocument, h, h', Except.bind, Except.bind,
    ofDescription_renamed stack stack' region d]
  cases hloaded : ofDescription stack region d with
  | error e => exact .failed e
  | ok r =>
      obtain ⟨a, -, rfl⟩ := exists_of_ofDescription hloaded
      refine .loaded (fun id => ?_) fun m id => ?_
      · exact answersAlike_renamed_iff.mpr (lookup_renamed rfl stack' id).symm
      · rw [withManifest_renamed, answersAlike_renamed_iff, ← withManifest_renamed,
          lookup_withManifest rfl, lookup_withManifest rfl, lookup_renamed rfl]
        rfl

/-! ### Constructs -/

/-- The ID of a stack. -/
def ordersId : String := "arn:aws:cloudformation:us-east-1:123456789012:stack/orders/6f2c"

/-- A document that lists a table of the stack. -/
def ordersDocument : String :=
  "\x7b\"StackResources\":[\x7b\"StackName\":\"orders\",
    \"StackId\":\"arn:aws:cloudformation:us-east-1:123456789012:stack/orders/6f2c\",
    \"LogicalResourceId\":\"Sales\",\"PhysicalResourceId\":\"sales\",
    \"ResourceType\":\"AWS::DynamoDB::Table\"\x7d]\x7d"

/-- A manifest by which the table is a construct of the stack. -/
def ordersManifest : String :=
  "\x7b\"artifacts\":\x7b\"orders\":\x7b\"metadata\":\x7b\"/orders/Table/Resource\":
    [\x7b\"type\":\"aws:cdk:logicalId\",\"data\":\"Sales\"\x7d]\x7d\x7d\x7d\x7d"

def salesTable : Resource := ⟨"Sales", "sales", "AWS::DynamoDB::Table"⟩

set_option maxRecDepth 4000 in
theorem listing_orders : StackDescription.listing.run? ordersDocument =
    some [⟨some "orders", some ordersId, "Sales", some "sales", "AWS::DynamoDB::Table"⟩] := by
  rw [Json.Reader.run?, Json.Tree.parse?, ordersDocument, String.toList_ofList]
  rfl

/-- Under both names the table is described. -/
theorem parse_orders {stack : String} (h : stack = "orders" ∨ stack = ordersId) :
    StackDescription.parse ordersDocument stack "us-east-1" = .ok ⟨ordersId, [salesTable]⟩ := by
  rw [StackDescription.parse, listing_orders]
  obtain rfl | rfl := h <;> rfl

/-- The constructs of the manifest. -/
def ordersConstructs : Manifest := ⟨.ofList [("orders", .ofList [("Table", "Sales")])]⟩

set_option maxRecDepth 4000 in
theorem assembly_orders : Assembly.reader.run? ordersManifest =
    some [("orders", [("/orders/Table/Resource", [⟨"aws:cdk:logicalId", .text "Sales"⟩])])] := by
  rw [Json.Reader.run?, Json.Tree.parse?, ordersManifest, String.toList_ofList]
  rfl

/-- The constructs of the manifest. -/
theorem parse_ordersManifest : Manifest.parse ordersManifest = .ok ordersConstructs := by
  rw [Manifest.parse, assembly_orders]
  rfl

/-- The registry of the document. -/
def ordersRegistry (stack : String) : Registry :=
  ⟨stack, "us-east-1", "123456789012", .ofList [("Sales", salesTable)], none⟩

/-- Under both names a registry with the table is made. -/
theorem ofDocument_orders {stack : String} (h : stack = "orders" ∨ stack = ordersId) :
    ofDocument ordersDocument stack "us-east-1" = .ok (ordersRegistry stack) := by
  let stackArn : Arn := ⟨ordersId, by decide, by decide⟩
  have haccount : stackArn.account = "123456789012" := by decide
  have hparse : Arn.parse ordersId = .ok stackArn := Arn.parse_text stackArn
  rw [ofDocument, parse_orders h, Except.bind, ofDescription, hparse, ordersRegistry, ← haccount]
  rfl

/-- The stack under its name and under its ID. -/
theorem eitherWay_orders :
    StackDescription.parse ordersDocument "orders" "us-east-1" = .ok ⟨ordersId, [salesTable]⟩ ∧
      StackDescription.parse ordersDocument ordersId "us-east-1" = .ok ⟨ordersId, [salesTable]⟩ ∧
      EitherWay "orders" ordersId (ofDocument ordersDocument "orders" "us-east-1")
        (ofDocument ordersDocument ordersId "us-east-1") := by
  have hname := parse_orders (.inl rfl)
  have hid := parse_orders (.inr rfl)
  exact ⟨hname, hid, eitherWay_of_parse hname hid⟩

/-- **The construct is lost** where the stack is called by its ID: the table is found as a
construct of the stack by its name only. -/
theorem table_lost_by_stackId :
    let byName := (ordersRegistry "orders").withManifest ordersConstructs
    let byId := (ordersRegistry ordersId).withManifest ordersConstructs
    StackDescription.parse ordersDocument "orders" "us-east-1" = .ok ⟨ordersId, [salesTable]⟩ ∧
      StackDescription.parse ordersDocument ordersId "us-east-1" = .ok ⟨ordersId, [salesTable]⟩ ∧
      ofDocument ordersDocument "orders" "us-east-1" = .ok (ordersRegistry "orders") ∧
      ofDocument ordersDocument ordersId "us-east-1" = .ok (ordersRegistry ordersId) ∧
      Manifest.parse ordersManifest = .ok ordersConstructs ∧
      byName.lookup "Table" = some salesTable ∧ byId.lookup "Table" = none ∧
      ¬ AnswersAlike byName byId "Table" := by
  intro byName byId
  have hname : byName.lookup "Table" = some salesTable := by decide
  have hid : byId.lookup "Table" = none := by decide
  refine ⟨parse_orders (.inl rfl), parse_orders (.inr rfl), ofDocument_orders (.inl rfl),
    ofDocument_orders (.inr rfl), parse_ordersManifest, hname, hid, fun h => ?_⟩
  have hsame := h.lookup
  rw [hname, hid] at hsame
  cases hsame

end Registry

end StackPlaybook
