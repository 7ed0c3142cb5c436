import Mathlib.Data.List.Forall2

/-!
# StackPlaybook.Proofs.Traversal

Computations that may fail, taken apart: one that is continued, and one for every element of a
list.  Such a traversal succeeds if it does for every element (`mapM_eq_ok_iff`), and otherwise
fails as it does for the first one that it fails for (`mapM_eq_error_iff`).
-/

namespace StackPlaybook

variable {ε α β : Type}

/-! ## One computation -/

section One

variable {x : Except ε α} {b : β}

/-- A result that was mapped comes from one that was not. -/
theorem exists_of_map_eq_ok {f : α → β} (h : x.map f = .ok b) : ∃ a, x = .ok a ∧ f a = b := by
  cases x with
  | error e => cases h
  | ok a => exact ⟨a, rfl, Except.ok.inj h⟩

/-- Two operations in a row succeed only if both do. -/
theorem exists_of_bind_eq_ok {f : α → Except ε β} (h : x.bind f = .ok b) :
    ∃ a, x = .ok a ∧ f a = .ok b := by
  cases x with
  | error e => cases h
  | ok a => exact ⟨a, rfl, h⟩

theorem exists_map_eq_ok_iff {f : α → β} : (∃ b, x.map f = .ok b) ↔ ∃ a, x = .ok a := by
  cases x with
  | error e => exact ⟨nofun, nofun⟩
  | ok a => exact ⟨fun _ => ⟨a, rfl⟩, fun _ => ⟨f a, rfl⟩⟩

/-- They fail just if the first does, or the second on what the first gave. -/
theorem bind_eq_error_iff {f : α → Except ε β} {e : ε} :
    x.bind f = .error e ↔ x = .error e ∨ ∃ a, x = .ok a ∧ f a = .error e := by
  cases x with
  | error e' => simp [Except.bind]
  | ok a => simp [Except.bind]

theorem map_eq_error_iff {f : α → β} {e : ε} : x.map f = .error e ↔ x = .error e := by
  cases x with
  | error e' => exact ⟨fun h => congrArg Except.error (Except.error.inj h),
      fun h => congrArg Except.error (Except.error.inj h)⟩
  | ok a => exact ⟨nofun, nofun⟩

end One

/-! ## Traversals -/

variable {f : α → Except ε β}

/-- A list is gone through from its first element on. -/
theorem mapM_cons_eq_map (f : α → Except ε β) (x : α) (xs : List α) :
    (x :: xs).mapM f = (f x).bind fun y => (xs.mapM f).map (y :: ·) := by
  rw [List.mapM_cons]
  cases f x with
  | error e => rfl
  | ok y => cases xs.mapM f <;> rfl

/-- A traversal that succeeds does so for every element. -/
theorem mapM_eq_ok_iff {xs : List α} {ys : List β} :
    xs.mapM f = .ok ys ↔ List.Forall₂ (fun x y => f x = .ok y) xs ys := by
  induction xs generalizing ys with
  | nil =>
      rw [List.forall₂_nil_left_iff]
      exact ⟨fun h => (Except.ok.inj h).symm, fun h => h ▸ rfl⟩
  | cons x xs ih =>
      rw [mapM_cons_eq_map, List.forall₂_cons_left_iff]
      constructor
      · intro h
        obtain ⟨y, hy, hrest⟩ := exists_of_bind_eq_ok h
        obtain ⟨rest, hxs, rfl⟩ := exists_of_map_eq_ok hrest
        exact ⟨y, rest, hy, ih.mp hxs, rfl⟩
      · rintro ⟨y, rest, hy, hrest, rfl⟩
        rw [hy, ih.mpr hrest]
        rfl

/-- A traversal that fails does so as its first element that fails. -/
theorem mapM_eq_error_iff {xs : List α} {e : ε} :
    xs.mapM f = .error e ↔ ∃ before x after, xs = before ++ x :: after ∧
      (∀ y ∈ before, ∃ b, f y = .ok b) ∧ f x = .error e := by
  induction xs with
  | nil => exact ⟨nofun, fun ⟨before, x, after, h, _⟩ => by simp at h⟩
  | cons x xs ih =>
      rw [mapM_cons_eq_map]
      cases hx : f x with
      | error e' =>
          constructor
          · intro h
            obtain rfl := Except.error.inj h
            exact ⟨[], x, xs, rfl, by simp, hx⟩
          · rintro ⟨before, y, after, hsplit, hbefore, hy⟩
            cases before with
            | nil =>
                obtain rfl := (List.cons.inj hsplit).1
                rw [Except.error.inj (hx.symm.trans hy)]
                rfl
            | cons z before =>
                obtain rfl := (List.cons.inj hsplit).1
                obtain ⟨b, hb⟩ := hbefore x List.mem_cons_self
                rw [hx] at hb
                cases hb
      | ok b =>
          refine map_eq_error_iff.trans (ih.trans ?_)
          constructor
          · rintro ⟨before, y, after, rfl, hbefore, hy⟩
            exact ⟨x :: before, y, after, rfl, List.forall_mem_cons.mpr ⟨⟨b, hx⟩, hbefore⟩, hy⟩
          · rintro ⟨before, y, after, hsplit, hbefore, hy⟩
            cases before with
            | nil =>
                obtain rfl := (List.cons.inj hsplit).1
                rw [hx] at hy
                cases hy
            | cons z before =>
                obtain ⟨rfl, rfl⟩ := List.cons.inj hsplit
                exact ⟨before, y, after, rfl, (List.forall_mem_cons.mp hbefore).2, hy⟩

/-- A traversal succeeds just if no element fails. -/
theorem exists_mapM_eq_ok_iff {xs : List α} :
    (∃ ys, xs.mapM f = .ok ys) ↔ ∀ x ∈ xs, ∃ y, f x = .ok y := by
  constructor
  · rintro ⟨ys, hys⟩ x hx
    obtain ⟨i, hi, rfl⟩ := List.mem_iff_getElem.mp hx
    have hall := mapM_eq_ok_iff.mp hys
    exact ⟨ys.get ⟨i, hall.length_eq ▸ hi⟩, hall.get hi _⟩
  · intro h
    cases hxs : xs.mapM f with
    | ok ys => exact ⟨ys, rfl⟩
    | error e =>
        obtain ⟨before, x, after, rfl, -, hx⟩ := mapM_eq_error_iff.mp hxs
        obtain ⟨y, hy⟩ := h x (by simp)
        rw [hx] at hy
        cases hy

end StackPlaybook
