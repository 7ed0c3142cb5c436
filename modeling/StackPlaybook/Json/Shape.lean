import StackPlaybook.Json.Tree

/-!
# StackPlaybook.Json.Shape

Reading JSON into types of fixed shape.

A type with known fields is read from a record, whose other fields are passed over,
or from a list, which gives the fields in their order.  A known field may not be
given twice.
-/

namespace StackPlaybook.Json

/-- A reader of a type from a tree with at most `room` levels. -/
abbrev Reader (α : Type) := (room : Nat) → Tree → Option α

namespace Reader

/-- A field of a type as a document gives it. -/
inductive Given where
  | tree (t : Tree)
  /-- The record does not mention it. -/
  | unmentioned
  /-- The list ends before it. -/
  | cutOff

/-! ## Fields -/

/-- A field that must be there. -/
def Given.need {α : Type} (r : Reader α) (room : Nat) : Given → Option α
  | .tree t => r room t
  | _ => none

/-- A field that may be missing and then has a fixed value. -/
def Given.orElse {α : Type} (default : α) (r : Reader α) (room : Nat) : Given → Option α
  | .tree t => r room t
  | _ => some default

/-- A field that may be null or unmentioned; a list must still give it. -/
def Given.optional {α : Type} (r : Reader α) (room : Nat) : Given → Option (Option α)
  | .tree .null => some none
  | .tree t => (r room t).map some
  | .unmentioned => some none
  | .cutOff => none

/-- The fields of a record by their names, where every name can be read and none of
the known ones comes twice. -/
def recordFields? (names : List String) (fields : List (Option String × Tree)) :
    Option (List Given) := do
  let keys ← fields.mapM (·.1)
  guard (names.all fun n => keys.count n ≤ 1)
  return names.map fun n =>
    match fields.find? (·.1 == some n) with
    | some (_, t) => .tree t
    | none => .unmentioned

/-- The fields of a list by their places, where it has no more items than there are
fields. -/
def listFields? (names : List String) (items : List Tree) : Option (List Given) := do
  guard (items.length ≤ names.length)
  return items.map .tree ++ List.replicate (names.length - items.length) .cutOff

/-- Reads a type with the named fields through `build`, which is handed the fields
in the order of their names. -/
def fields {α : Type} (names : List String) (build : (room : Nat) → List Given → Option α) :
    Reader α := fun room t =>
  if room = 0 then none
  else match t with
    | .record fs => (recordFields? names fs).bind (build (room - 1))
    | .list items => (listFields? names items).bind (build (room - 1))
    | _ => none

/-! ## Simple types -/

def text : Reader String := fun _ t =>
  match t with
  | .text s => s
  | _ => none

def value : Reader Value := Tree.value?

/-- A list of items read one by one. -/
def list {α : Type} (r : Reader α) : Reader (List α) := fun room t =>
  match t with
  | .list items => if room = 0 then none else items.mapM (r (room - 1))
  | _ => none

/-- A record with free names; of entries with one name the last stays. -/
def table {α : Type} (r : Reader α) : Reader (Table α) := fun room t =>
  match t with
  | .record fs =>
    if room = 0 then none
    else (fs.mapM (namedItem? (room - 1))).map Table.ofList
  | _ => none
where
  namedItem? (room : Nat) (e : Option String × Tree) : Option (String × α) := do
    let key ← e.1
    let v ← r room e.2
    return (key, v)

/-- Reads a whole text. -/
def run? {α : Type} (r : Reader α) (text : String) : Option α :=
  (Tree.parse? text).bind (r Tree.maxDepth)

/-! ## What is read -/

section Accepted

variable {α : Type}

/-- What a reader of fields gives, its `build` gave. -/
theorem exists_of_fields {names : List String} {build : (room : Nat) → List Given → Option α}
    {room : Nat} {t : Tree} {a : α} (h : fields names build room t = some a) :
    ∃ room given, build room given = some a := by
  unfold fields at h
  split at h
  · cases h
  · split at h
    · obtain ⟨given, -, hbuild⟩ := Option.bind_eq_some_iff.mp h
      exact ⟨_, given, hbuild⟩
    · obtain ⟨given, -, hbuild⟩ := Option.bind_eq_some_iff.mp h
      exact ⟨_, given, hbuild⟩
    · cases h

/-- What holds of a default and of everything a reader gives holds of a field. -/
theorem Given.of_orElse (P : α → Prop) {default a : α} {r : Reader α} {room : Nat} {given : Given}
    (h : given.orElse default r room = some a) (hdefault : P default)
    (hread : ∀ t, r room t = some a → P a) : P a := by
  cases given with
  | tree t => exact hread t h
  | unmentioned => exact Option.some.inj h ▸ hdefault
  | cutOff => exact Option.some.inj h ▸ hdefault

/-- What is read of a list is read of its elements. -/
theorem exists_of_mem_mapM {β : Type} {f : α → Option β} {xs : List α} {ys : List β}
    (h : xs.mapM f = some ys) {y : β} (hy : y ∈ ys) : ∃ x ∈ xs, f x = some y := by
  induction xs generalizing ys with
  | nil =>
    obtain rfl := Option.some.inj h
    cases hy
  | cons x xs ih =>
    rw [List.mapM_cons] at h
    obtain ⟨z, hz, hrest⟩ := Option.bind_eq_some_iff.mp h
    obtain ⟨zs, hzs, hys⟩ := Option.bind_eq_some_iff.mp hrest
    obtain rfl := Option.some.inj hys
    obtain rfl | hy := List.mem_cons.mp hy
    · exact ⟨x, List.mem_cons_self, hz⟩
    · obtain ⟨x', hx', hy'⟩ := ih hzs hy
      exact ⟨x', List.mem_cons_of_mem _ hx', hy'⟩

/-- Every value in a table is what the reader of its items gives. -/
theorem exists_of_mem_table {r : Reader α} {room : Nat} {t : Tree} {read : Table α}
    (h : table r room t = some read) {e : String × α} (he : e ∈ read.entries) :
    ∃ room t, r room t = some e.2 := by
  unfold table at h
  split at h
  · split at h
    · cases h
    · obtain ⟨items, hitems, rfl⟩ := Option.map_eq_some_iff.mp h
      obtain ⟨item, -, hitem⟩ := exists_of_mem_mapM hitems (Table.mem_of_mem_ofList he)
      obtain ⟨key, -, hrest⟩ := Option.bind_eq_some_iff.mp hitem
      obtain ⟨v, hv, hnamed⟩ := Option.bind_eq_some_iff.mp hrest
      obtain rfl := Option.some.inj hnamed
      exact ⟨_, _, hv⟩
  · cases h

end Accepted

end Reader

end StackPlaybook.Json
