import StackPlaybook.Proofs.Stack.Naming

/-!
# StackPlaybook.Proofs.Stack.Lookup

What a registry answers, said of the list of resources that it was filled from.

* `StackDescription.latest?` — the last resource of the list under a logical ID;
* `Mirrors` — a look-up gives the last resource under the logical ID that an ID stands for, with
  a manifest or without one, and the listing holds just these resources, in ascending order;
* `mirrors_ofDescription` — so it is for every description of a stack whose ID is an ARN.
-/

namespace StackPlaybook

/-! ## The list of resources -/

/-- The last element of a list that passes a test: none after it does. -/
theorem getLast?_filter_eq_some_iff {α : Type} {p : α → Bool} {xs : List α} {x : α} :
    (xs.filter p).getLast? = some x ↔
      ∃ before after, xs = before ++ x :: after ∧ p x = true ∧ ∀ y ∈ after, p y = false := by
  rw [List.getLast?_filter, List.find?_eq_some_iff_append]
  constructor
  · rintro ⟨hx, after, before, hsplit, hafter⟩
    refine ⟨before.reverse, after.reverse, ?_, hx, fun y hy => ?_⟩
    · rw [← List.reverse_reverse xs, hsplit]
      simp
    · simpa using hafter y (List.mem_reverse.mp hy)
  · rintro ⟨before, after, rfl, hx, hafter⟩
    exact ⟨hx, after.reverse, before.reverse, by simp,
      fun y hy => by simp [hafter y (List.mem_reverse.mp hy)]⟩

namespace StackDescription

variable {d : StackDescription} {id : String} {r : Resource}

/-- The last resource of the list under a logical ID. -/
def latest? (d : StackDescription) (id : String) : Option Resource :=
  (d.resources.filter (·.logicalId == id)).getLast?

theorem latest?_eq_some_iff : d.latest? id = some r ↔ ∃ before after,
    d.resources = before ++ r :: after ∧ r.logicalId = id ∧ ∀ x ∈ after, x.logicalId ≠ id := by
  simp only [latest?, getLast?_filter_eq_some_iff, beq_iff_eq, beq_eq_false_iff_ne]

theorem latest?_eq_none_iff : d.latest? id = none ↔ ∀ x ∈ d.resources, x.logicalId ≠ id := by
  simp [latest?]

/-- The latest resource goes by the logical ID it is asked for. -/
theorem logicalId_of_latest? (h : d.latest? id = some r) : r.logicalId = id := by
  obtain ⟨_, _, _, hid, _⟩ := latest?_eq_some_iff.mp h
  exact hid

end StackDescription

/-! ## The registry -/

namespace Registry

variable {d : StackDescription} {stack region : String} {r : Registry}

/-- The logical ID that an ID stands for in a stack: what the manifest, if there is one, records
for it there, and otherwise the ID itself. -/
def standsFor (manifest : Option Manifest) (stack id : String) : String :=
  match manifest.bind (·.logicalId? stack id) with
  | some logicalId => logicalId
  | none => id

/-- A registry of a stack that answers as the list of resources says. -/
structure Mirrors (d : StackDescription) (stack : String) (r : Registry) : Prop where
  /-- A look-up gives the last resource under the logical ID that the ID stands for. -/
  lookup : ∀ (manifest : Option Manifest) (id : String),
    (manifest.elim r r.withManifest).lookup id = d.latest? (standsFor manifest stack id)
  /-- It gives none just if the list has none there, whatever it has under the ID itself. -/
  absent : ∀ (manifest : Option Manifest) (id : String),
    (manifest.elim r r.withManifest).lookup id = none ↔
      ∀ x ∈ d.resources, x.logicalId ≠ standsFor manifest stack id
  ascending : r.resources.Pairwise fun x y => x.logicalId < y.logicalId
  mem_resources : ∀ x, x ∈ r.resources ↔ d.latest? x.logicalId = some x
  own : ∀ x ∈ r.resources, r.lookup x.logicalId = some x
  unlisted : ∀ id, (∀ x ∈ r.resources, x.logicalId ≠ id) → r.lookup id = none
  attached : ∀ m : Manifest, (r.withManifest m).resources = r.resources
  unmapped : ∀ (m : Manifest) (id : String), m.logicalId? stack id = none →
    (r.withManifest m).lookup id = r.lookup id

/-- What is looked up in the table, with a manifest or without one. -/
theorem lookup_eq_get? (hstack : r.stackName = stack) (hmanifest : r.manifest = none)
    (manifest : Option Manifest) (id : String) :
    (manifest.elim r r.withManifest).lookup id = r.table.get? (standsFor manifest stack id) := by
  cases manifest with
  | none => simp [Registry.lookup, translate, standsFor, hmanifest]
  | some m =>
      rw [Option.elim_some, lookup_withManifest hmanifest, hstack, Registry.lookup, translate,
        hmanifest, standsFor, Option.bind_some]
      cases m.logicalId? stack id <;> rfl

section Resources

-- each resource is kept under its own logical ID
variable (hkey : ∀ e ∈ r.table.entries, e.2.logicalId = e.1)
include hkey

/-- A registry lists what it holds under its own logical ID. -/
theorem mem_resources_iff {x : Resource} :
    x ∈ r.resources ↔ r.table.get? x.logicalId = some x := by
  rw [← Table.mem_entries_iff]
  constructor
  · intro hx
    obtain ⟨e, he, rfl⟩ := List.mem_map.mp hx
    rw [hkey e he]
    exact he
  · exact fun hx => List.mem_map.mpr ⟨_, hx, rfl⟩

/-- A registry lists resources by ascending logical IDs. -/
theorem resources_ascending : r.resources.Pairwise fun x y => x.logicalId < y.logicalId := by
  refine List.pairwise_map.mpr (r.table.sorted.imp_of_mem fun {a b} ha hb hlt => ?_)
  rw [hkey a ha, hkey b hb]
  exact hlt

end Resources

/-- What holds of a registry that finds in its table what the list has last. -/
theorem Mirrors.of_table (hstack : r.stackName = stack) (hmanifest : r.manifest = none)
    (htable : ∀ id, r.table.get? id = d.latest? id) : Mirrors d stack r := by
  have hkey (e : String × Resource) (he : e ∈ r.table.entries) : e.2.logicalId = e.1 := by
    rw [Table.mem_entries_iff, htable] at he
    exact StackDescription.logicalId_of_latest? he
  have hlookup (manifest : Option Manifest) (id : String) :
      (manifest.elim r r.withManifest).lookup id = d.latest? (standsFor manifest stack id) := by
    rw [lookup_eq_get? hstack hmanifest, htable]
  have hmem (x : Resource) : x ∈ r.resources ↔ d.latest? x.logicalId = some x := by
    rw [mem_resources_iff hkey, htable]
  exact {
    lookup := hlookup
    absent := fun manifest id => by rw [hlookup, StackDescription.latest?_eq_none_iff]
    ascending := resources_ascending hkey
    mem_resources := hmem
    own := fun x hx => (hlookup none x.logicalId).trans ((hmem x).mp hx)
    unlisted := fun id hid => by
      refine (hlookup none id).trans (Option.eq_none_iff_forall_ne_some.mpr fun x hx => ?_)
      obtain rfl : x.logicalId = id := StackDescription.logicalId_of_latest? hx
      exact hid x ((hmem x).mpr hx) rfl
    attached := fun m => resources_withManifest r m
    unmapped := fun m id hid => by
      rw [lookup_withManifest hmanifest, hstack, hid, Option.getD_none] }

/-- A registry that is filled from a description mirrors it. -/
theorem mirrors_of_ok {built : Registry} (h : ofDescription stack region d = .ok built) :
    Mirrors d stack built := by
  obtain ⟨stackArn, -, rfl⟩ := exists_of_ofDescription h
  exact .of_table rfl rfl fun id => Table.get?_ofList_map (·.logicalId) d.resources id

/-- **A registry answers as its description says**, for every description: one whose stack ID is
no ARN is refused, and any other gives a registry that mirrors its list of resources. -/
theorem mirrors_ofDescription (d : StackDescription) (stack region : String) :
    (∃ e, Arn.parse d.stackId = .error e ∧ ofDescription stack region d = .error e) ∨
      ∃ r, ofDescription stack region d = .ok r ∧ Mirrors d stack r := by
  unfold ofDescription
  cases hid : Arn.parse d.stackId with
  | error e => exact .inl ⟨e, rfl, rfl⟩
  | ok stackArn =>
      refine .inr ⟨_, rfl, .of_table rfl rfl fun id => ?_⟩
      exact Table.get?_ofList_map (·.logicalId) d.resources id

-- of two resources under one logical ID, the later one stays
example : ((ofDescription "orders" "us-east-1" ⟨ordersId,
      [⟨"Sales", "old", "AWS::DynamoDB::Table"⟩, ⟨"Jobs", "jobs", "AWS::SQS::Queue"⟩,
        salesTable]⟩).toOption.map fun r => (r.lookup "Sales", r.resources.map (·.logicalId))) =
    some (some salesTable, ["Jobs", "Sales"]) := by decide +kernel

end Registry

end StackPlaybook
