import StackPlaybook.Toml.Document

/-!
# StackPlaybook.Toml.Shape

Reading TOML into types of fixed shape.

A type with known fields is read from a table, whose other entries are passed over,
or from a list, which gives the fields in their order.
-/

namespace StackPlaybook.Toml

/-- A field of a type as a document gives it. -/
inductive Given where
  | value (v : Value)
  /-- The table does not mention it. -/
  | unmentioned
  /-- The list ends before it. -/
  | cutOff

namespace Value

/-- The entries of a table, however it is written. -/
def entries? : Value → Option Entries
  | .table _ entries | .inlineTable _ entries => some entries
  | _ => none

/-- The items of a list, or the tables of a repeated header. -/
def items? : Value → Option (List Value)
  | .list items => some items
  | .tables items => some (items.reverse.map (.table .opened))
  | _ => none

/-- The named fields of a table. -/
def tableFields (names : List String) (entries : Entries) : List Given :=
  names.map fun n =>
    match entries.lookup n with
    | some v => .value v
    | none => .unmentioned

/-- The fields of a list by their places; further items are passed over. -/
def listFields : (names : List String) → List Value → List Given
  | [], _ => []
  | _ :: names, [] => .cutOff :: listFields names []
  | _ :: names, v :: vs => .value v :: listFields names vs

/-- The named fields of a value.  A date counts as a table that mentions none. -/
def fields? (names : List String) (v : Value) : Option (List Given) :=
  match v, v.entries?, v.items? with
  | .scalar .date, _, _ => some (tableFields names [])
  | _, some entries, _ => some (tableFields names entries)
  | _, none, some items => some (listFields names items)
  | _, none, none => none

def text? : Value → Option String
  | .text s => some s
  | _ => none

/-- A whole number below a bound. -/
def nat? (bound : Nat) : Value → Option Nat
  | .scalar (.int (.ofNat n)) => if n < bound then some n else none
  | _ => none

/-- A number that is read is below its bound. -/
theorem lt_of_nat? {bound n : Nat} {v : Value} (h : v.nat? bound = some n) : n < bound := by
  unfold nat? at h
  split at h
  · split at h
    · next hlt => cases h; exact hlt
    · cases h
  · cases h

/-- A choice by name: the name itself, or a table with nothing but an empty list or
table under that name. -/
def choice? : Value → Option String
  | .text s => some s
  | v => do
    match v.entries? with
    | some [(name, content)] =>
      match content.entries?, content.items? with
      | some [], _ | _, some [] => some name
      | _, _ => none
    | _ => none

end Value

namespace Given

/-- A field that may be missing and then has a fixed value. -/
def orElse {α : Type} (default : α) (read : Value → Option α) : Given → Option α
  | .value v => read v
  | _ => some default

/-- What holds of the fixed value and of all values that are read holds of the field. -/
theorem of_orElse {α : Type} (P : α → Prop) {default a : α} {read : Value → Option α}
    {given : Given} (h : given.orElse default read = some a) (hdefault : P default)
    (hread : ∀ v, read v = some a → P a) : P a := by
  cases given with
  | value v => exact hread v h
  | unmentioned => cases h; exact hdefault
  | cutOff => cases h; exact hdefault

/-- A field that a table need not mention; a list must still give it. -/
def optional {α : Type} (read : Value → Option α) : Given → Option (Option α)
  | .value v => (read v).map some
  | .unmentioned => some none
  | .cutOff => none

end Given

end StackPlaybook.Toml
