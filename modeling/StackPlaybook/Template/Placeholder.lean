import StackPlaybook.Text.Blank

/-!
# StackPlaybook.Template.Placeholder

The placeholders of a command text: two opening braces, blanks, a key of small
letters, optionally a colon and an argument without blanks and closing braces,
blanks, two closing braces.  `pieces` cuts a text at its placeholders, from the left
and without overlap.
-/

namespace StackPlaybook

/-- A placeholder as it is written. -/
structure Placeholder where
  source : List Char
  key : List Char
  arg : Option (List Char)
  deriving DecidableEq, Repr

namespace Placeholder

/-! ## Reading one -/

def isKeyChar (c : Char) : Bool := 'a' ≤ c && c ≤ 'z'

def isArgChar (c : Char) : Bool := c != '}' && !Text.isBlank c

/-- The argument at the front, if a colon and at least one character of it are
there, and what follows. -/
def readArg : List Char → Option (List Char) × List Char
  | ':' :: cs =>
    match cs.takeWhile isArgChar with
    | [] => (none, ':' :: cs)
    | arg => (some arg, cs.dropWhile isArgChar)
  | cs => (none, cs)

/-- Key, argument and what follows the closing braces, from after the opening ones.
Each part takes as much as it can: no shorter part could be continued. -/
def readInside (cs : List Char) : Option ((List Char × Option (List Char)) × List Char) :=
  let cs := Text.trimFront cs
  let key := cs.takeWhile isKeyChar
  let argAndRest := readArg (cs.dropWhile isKeyChar)
  match Text.trimFront argAndRest.2 with
  | '}' :: '}' :: rest => if key.isEmpty then none else some ((key, argAndRest.1), rest)
  | _ => none

/-- The placeholder at the front of a text, and what follows it. -/
def read : List Char → Option (Placeholder × List Char)
  | '{' :: '{' :: cs =>
    (readInside cs).map fun ((key, arg), rest) =>
      (⟨'{' :: '{' :: cs.take (cs.length - rest.length), key, arg⟩, rest)
  | _ => none

/-- Reading an argument takes characters from the front only. -/
theorem readArg_suffix (cs : List Char) : (readArg cs).2 <:+ cs := by
  unfold readArg
  split
  · split
    · exact List.suffix_refl _
    · exact (List.dropWhile_suffix _).trans (List.suffix_cons _ _)
  · exact List.suffix_refl _

/-- So does reading all that stands between the braces. -/
theorem readInside_suffix {cs rest : List Char} {p : List Char × Option (List Char)}
    (h : readInside cs = some (p, rest)) : rest <:+ cs := by
  unfold readInside at h
  simp only at h
  split at h
  · next rest' htrim =>
    split at h
    · cases h
    · have hr : rest' = rest := congrArg Prod.snd (Option.some.inj h)
      subst hr
      have hclose : rest' <:+ '}' :: '}' :: rest' :=
        (List.suffix_cons _ _).trans (List.suffix_cons _ _)
      rw [← htrim] at hclose
      exact hclose.trans ((List.dropWhile_suffix _).trans ((readArg_suffix _).trans
        ((List.dropWhile_suffix _).trans (List.dropWhile_suffix _))))
  · cases h

/-- A placeholder is its source text: the rest follows it at once. -/
theorem eq_append_of_read {cs rest : List Char} {p : Placeholder} (h : read cs = some (p, rest)) :
    cs = p.source ++ rest := by
  unfold read at h
  split at h
  · next cs =>
    obtain ⟨⟨⟨key, arg⟩, r⟩, hin, heq⟩ := Option.map_eq_some_iff.1 h
    obtain ⟨front, rfl⟩ := readInside_suffix hin
    simp only [Prod.mk.injEq] at heq
    obtain ⟨rfl, rfl⟩ := heq
    simp
  · cases h

/-- A placeholder is written with some characters. -/
theorem source_ne_nil {cs rest : List Char} {p : Placeholder} (h : read cs = some (p, rest)) :
    p.source ≠ [] := by
  unfold read at h
  split at h
  · obtain ⟨⟨⟨key, arg⟩, r⟩, -, heq⟩ := Option.map_eq_some_iff.1 h
    simp only [Prod.mk.injEq] at heq
    rw [← heq.1]
    simp
  · cases h

/-- Reading a placeholder leaves fewer characters. -/
theorem length_lt_of_read {cs rest : List Char} {p : Placeholder} (h : read cs = some (p, rest)) :
    rest.length < cs.length := by
  have hne := source_ne_nil h
  rw [eq_append_of_read h, List.length_append]
  have : 0 < p.source.length := List.length_pos_iff.2 hne
  omega

/-! ## Cutting a text -/

/-- A part of a text: a run without placeholders, or a placeholder. -/
inductive Piece where
  | gap (text : List Char)
  | hole (p : Placeholder)
  deriving DecidableEq, Repr

/-- The characters of a part. -/
def Piece.source : Piece → List Char
  | .gap text => text
  | .hole p => p.source

/-- The run collected so far (last character first) as a part, if it is not empty. -/
def gap (seen : List Char) : List Piece :=
  if seen.isEmpty then [] else [.gap seen.reverse]

/-- The parts of `cs`, after the characters `seen` (last first) that belong to no
placeholder. -/
def piecesFrom (seen cs : List Char) : List Piece :=
  match cs with
  | [] => gap seen
  | c :: cs =>
    match _h : read (c :: cs) with
    | some (p, rest) => gap seen ++ .hole p :: piecesFrom [] rest
    | none => piecesFrom (c :: seen) cs
termination_by cs.length
decreasing_by
  · exact length_lt_of_read (by assumption)
  · simp

/-- The parts of a text: its placeholders, and the runs between them. -/
def pieces (cs : List Char) : List Piece := piecesFrom [] cs

end Placeholder

end StackPlaybook
