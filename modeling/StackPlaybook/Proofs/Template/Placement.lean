import StackPlaybook.Proofs.Template.Substitution

/-!
# StackPlaybook.Proofs.Template.Placement

Placeholders in the middle of any text.

* `Whole` — texts that do not end within the argument of a placeholder.
* `pieces_append` — a placeholder behind such a text is found there: the text is cut as if it
  stood alone.
* `parse_pair`, `render_pair` — so a command that asks for the name and the ARN of an ID is
  understood as that, whatever stands around it.
-/

namespace StackPlaybook

namespace Placeholder

/-! ## Texts before a placeholder -/

/-- A placeholder that is broken off in its argument. -/
inductive Unfinished : List Char → Prop
  | intro {before key arg : List Char} (before_blank : ∀ c ∈ before, Text.isBlank c = true)
      (key_ne_nil : key ≠ []) (key_plain : ∀ c ∈ key, isKeyChar c = true)
      (arg_plain : ∀ c ∈ arg, isArgChar c = true) :
      Unfinished ('{' :: '{' :: (before ++ (key ++ ':' :: arg)))

/-- A text that does not end in a placeholder that is broken off. -/
def Whole (text : List Char) : Prop := ∀ cs, cs <:+ text → ¬ Unfinished cs

theorem Whole.of_suffix {text cs : List Char} (h : Whole text) (hcs : cs <:+ text) :
    Whole cs := fun ds hds => h ds (hds.trans hcs)

/-- A text without two opening braces in a row is whole. -/
theorem whole_of_closed {text : List Char} (h : ¬ ['{', '{'] <:+: text) : Whole text := by
  intro cs hcs hbroken
  cases hbroken with
  | intro => exact h (List.IsInfix.trans ⟨[], _, rfl⟩ hcs.isInfix)

/-- A run without a character ends before that character. -/
theorem exists_of_append_eq {run tail cs more : List Char} {x : Char} (hrun : x ∉ run)
    (h : run ++ tail = cs ++ x :: more) : ∃ ds, cs = run ++ ds ∧ tail = ds ++ x :: more := by
  obtain hds | ⟨ds, rfl, hds⟩ := List.append_eq_append_iff.mp h
  · exact hds
  · cases ds with
    | nil => exact ⟨[], by simp, by simpa using hds.symm⟩
    | cons d ds =>
        obtain rfl := (List.cons.inj hds).1
        exact absurd (List.mem_append_right cs List.mem_cons_self) hrun

theorem brace_not_mem {cs : List Char} {p : Char → Bool} (h : ∀ c ∈ cs, p c = true)
    (hp : p '{' = false) : '{' ∉ cs := by
  intro hmem
  rw [h _ hmem] at hp
  cases hp

/-- Braces inside a placeholder are in its argument. -/
theorem unfinished_of_spelled {p : Placeholder} (hp : Spelled p) {cs more : List Char}
    (h : p.source = '{' :: '{' :: (cs ++ '{' :: more)) : Unfinished ('{' :: '{' :: cs) := by
  cases hp with
  | @intro before key after arg before_blank key_ne_nil key_plain arg_plain after_blank =>
      have hend : '{' ∉ after ++ ['}', '}'] := by
        have hafter := brace_not_mem after_blank rfl
        simp [hafter]
      have hinner : before ++ (key ++ (argText arg ++ (after ++ ['}', '}']))) = cs ++ '{' :: more :=
        (List.cons.inj (List.cons.inj h).2).2
      obtain ⟨ds, rfl, hkey⟩ := exists_of_append_eq (brace_not_mem before_blank rfl) hinner
      obtain ⟨es, rfl, harg⟩ := exists_of_append_eq (brace_not_mem key_plain rfl) hkey
      cases arg with
      | none =>
          have hmem : '{' ∈ es ++ '{' :: more := List.mem_append_right es List.mem_cons_self
          rw [← harg] at hmem
          exact absurd hmem hend
      | some id =>
          have hcolon : [':'] ++ (id ++ (after ++ ['}', '}'])) = es ++ '{' :: more := harg
          obtain ⟨fs, rfl, hid⟩ := exists_of_append_eq (by simp) hcolon
          obtain ⟨gs, -, hgs⟩ | ⟨gs, hsplit, -⟩ := List.append_eq_append_iff.mp hid
          · have hmem : '{' ∈ gs ++ '{' :: more := List.mem_append_right gs List.mem_cons_self
            rw [← hgs] at hmem
            exact absurd hmem hend
          · refine .intro before_blank key_ne_nil key_plain fun c hc => ?_
            refine (arg_plain id rfl).2 c ?_
            rw [hsplit]
            exact List.mem_append_left gs hc

/-- A placeholder that begins in a whole text ends there, if braces follow. -/
theorem exists_of_read_append {c : Char} {cs rest r : List Char} {p : Placeholder}
    (hwhole : Whole (c :: cs)) (h : read (c :: cs ++ '{' :: '{' :: rest) = some (p, r)) :
    ∃ s, r = s ++ '{' :: '{' :: rest ∧ read (c :: cs) = some (p, s) := by
  obtain ⟨hspelled, htext⟩ := read_eq_some_iff.mp h
  obtain ⟨inner, hinner⟩ : ∃ inner, p.source = '{' :: '{' :: inner := by
    cases hspelled
    exact ⟨_, rfl⟩
  obtain ⟨as, hsource, hrest⟩ | ⟨s, hsource, hrest⟩ := List.append_eq_append_iff.mp htext
  · cases as with
    | nil => exact ⟨[], hrest.symm, read_eq_some_iff.mpr ⟨hspelled, by rw [hsource]; simp⟩⟩
    | cons a as =>
        -- The placeholder goes on after the text, so the braces there are inside it.
        obtain rfl : '{' = a := (List.cons.inj hrest).1
        have hbroken : p.source = c :: (cs ++ '{' :: as) := hsource
        obtain ⟨rfl, htail⟩ := List.cons.inj (hbroken.symm.trans hinner)
        cases cs with
        | nil =>
            have hnone := read_three_braces rest
            rw [show '{' :: '{' :: '{' :: rest = ['{'] ++ '{' :: '{' :: rest from rfl, h] at hnone
            cases hnone
        | cons d ds =>
            obtain rfl : d = '{' := (List.cons.inj htail).1
            exact absurd (unfinished_of_spelled hspelled hbroken)
              (hwhole _ (List.suffix_refl _))
  · exact ⟨s, hrest, read_eq_some_iff.mpr ⟨hspelled, hsource⟩⟩

/-- A placeholder in a text is read as before when more follows. -/
theorem read_append_of_read {cs r : List Char} {p : Placeholder} (h : read cs = some (p, r))
    (more : List Char) : read (cs ++ more) = some (p, r ++ more) := by
  obtain ⟨hspelled, rfl⟩ := read_eq_some_iff.mp h
  exact read_eq_some_iff.mpr ⟨hspelled, List.append_assoc ..⟩

/-- **A text before a placeholder** is cut as if it stood alone, if it is whole. -/
theorem piecesFrom_append {text rest : List Char} (htext : Whole text) {p : Placeholder}
    {r : List Char} (hrest : read rest = some (p, r)) (seen : List Char) :
    piecesFrom seen (text ++ rest) = piecesFrom seen text ++ pieces rest := by
  obtain ⟨more, rfl⟩ : ∃ more, rest = '{' :: '{' :: more := by
    obtain ⟨hspelled, rfl⟩ := read_eq_some_iff.mp hrest
    cases hspelled
    exact ⟨_, rfl⟩
  fun_induction piecesFrom seen text with
  | case1 seen =>
      rw [List.nil_append, pieces, piecesFrom_of_read hrest, piecesFrom_of_read hrest]
      rfl
  | case2 seen c cs q s hread ih =>
      have hsuffix : s <:+ c :: cs := ⟨q.source, (eq_append_of_read hread).symm⟩
      rw [piecesFrom_of_read (read_append_of_read hread _), ih (htext.of_suffix hsuffix),
        List.append_assoc]
      rfl
  | case3 seen c cs hread ih =>
      have hnone : read (c :: (cs ++ '{' :: '{' :: more)) = none := by
        cases h : read (c :: (cs ++ '{' :: '{' :: more)) with
        | none => rfl
        | some x =>
            obtain ⟨s, -, hinside⟩ := exists_of_read_append htext h
            rw [hread] at hinside
            cases hinside
      rw [List.cons_append, piecesFrom_of_none hnone, ih (htext.of_suffix (List.suffix_cons c cs))]

/-- A whole text and a placeholder after it are cut apart. -/
theorem pieces_append {text rest : List Char} (htext : Whole text) {p : Placeholder}
    {r : List Char} (hrest : read rest = some (p, r)) :
    pieces (text ++ rest) = pieces text ++ .hole p :: pieces r := by
  have hhole : pieces rest = .hole p :: pieces r := by
    rw [pieces, piecesFrom_of_read hrest]
    rfl
  rw [pieces, piecesFrom_append htext hrest, hhole]
  rfl

end Placeholder

/-! ## Asking for a name and an ARN -/

namespace Template

open Placeholder

/-- The placeholder for the name or the ARN of an ID. -/
def slotFor (key id : String) : Placeholder :=
  ⟨'{' :: '{' :: (key.toList ++ (':' :: (id.toList ++ ['}', '}']))), key.toList, some id.toList⟩

/-- The placeholders for the name and the ARN of an ID, with a blank between them. -/
def pairFor (id : String) : String :=
  "\x7b\x7bname:" ++ id ++ "\x7d\x7d \x7b\x7barn:" ++ id ++ "\x7d\x7d"

/-- The placeholder for an ID is spelled out. -/
theorem Placeable.spelled_slotFor {id : String} (h : Placeable id) {key : String}
    (hne : key.toList ≠ []) (hkey : ∀ c ∈ key.toList, isKeyChar c = true) :
    Spelled (slotFor key id) := by
  have hnone : ∀ c ∈ ([] : List Char), Text.isBlank c = true := by simp
  exact .intro hnone hne hkey h.arg_plain hnone

theorem toList_pairFor (id : String) :
    (pairFor id).toList = (slotFor "name" id).source ++ ' ' :: (slotFor "arn" id).source := by
  simp [pairFor, slotFor]

/-- The pieces of a text with the pair in it. -/
theorem pieces_pairFor {id : String} (h : Placeable id) {before : List Char}
    (hbefore : Whole before) (after : List Char) :
    pieces (before ++ ((pairFor id).toList ++ after)) =
      pieces before ++ ([.hole (slotFor "name" id), .gap [' '], .hole (slotFor "arn" id)] ++
        pieces after) := by
  have hname : read ((pairFor id).toList ++ after) =
      some (slotFor "name" id, ' ' :: ((slotFor "arn" id).source ++ after)) :=
    read_eq_some_iff.mpr
      ⟨h.spelled_slotFor (by simp) (by simp [isKeyChar]), by simp [toList_pairFor]⟩
  have harn : read ((slotFor "arn" id).source ++ after) = some (slotFor "arn" id, after) :=
    read_eq_some_iff.mpr ⟨h.spelled_slotFor (by simp) (by simp [isKeyChar]), rfl⟩
  have hblank : Whole [' '] := whole_of_closed (by decide)
  have hgap : pieces [' '] = [.gap [' ']] := by
    rw [pieces, piecesFrom_of_none rfl, piecesFrom_nil]
    rfl
  have hrest := pieces_append hblank harn
  rw [hgap] at hrest
  rw [pieces_append hbefore hname]
  simpa using hrest

/-! ### Reading -/

/-- A placeholder that is understood in one text is understood in any other. -/
theorem ofPiece_of_ok {text : String} {piece : Piece} {segment : Segment}
    (h : Segment.ofPiece text piece = .ok segment) (text' : String) :
    Segment.ofPiece text' piece = .ok segment := by
  cases piece with
  | gap cs => exact h
  | hole p =>
      obtain ⟨hole, hhole, rfl⟩ := exists_of_map_eq_ok h
      rw [Segment.ofPiece, ofPlaceholder_of_means (ofPlaceholder_eq_ok_iff.mp hhole)]
      rfl

/-- The segments of a template that was read. -/
theorem mapM_of_parse {text : String} {t : Template} (h : parse text = .ok t) (text' : String) :
    (pieces text.toList).mapM (Segment.ofPiece text') = .ok t.segments := by
  obtain ⟨segments, hsegments, rfl⟩ := exists_of_map_eq_ok h
  exact mapM_eq_ok_iff.mpr ((mapM_eq_ok_iff.mp hsegments).imp fun _ _ hpiece =>
    ofPiece_of_ok hpiece text')

/-- The segments of the pair for an ID that stands for a target. -/
def pairSegments (id : String) (target : Target) : List Segment :=
  [.hole (String.ofList (slotFor "name" id).source) (.name target), .literal " ",
    .hole (String.ofList (slotFor "arn" id).source) (.arn target)]

/-- The pair for an ID is refused just as the ID is. -/
theorem mapM_pair (id text : String) :
    [Piece.hole (slotFor "name" id), .gap [' '], .hole (slotFor "arn" id)].mapM
        (Segment.ofPiece text) = (Target.parse id).map (pairSegments id) := by
  have hname : Hole.ofPlaceholder text (slotFor "name" id) = (Target.parse id).map .name := by
    simp [Hole.ofPlaceholder, slotFor]
  have harn : Hole.ofPlaceholder text (slotFor "arn" id) = (Target.parse id).map .arn := by
    simp [Hole.ofPlaceholder, slotFor]
  simp only [List.mapM_cons, List.mapM_nil, Segment.ofPiece, hname, harn]
  cases Target.parse id <;> rfl

/-- **Reading a command that asks for an ID**, between texts that are templates of their own:
it is refused just if the ID is, and for the same error. -/
theorem parse_pair {id before after : String} (hid : Placeable id)
    (hwhole : Whole before.toList) {front back : Template} (hbefore : parse before = .ok front)
    (hafter : parse after = .ok back) :
    parse (before ++ pairFor id ++ after) = (Target.parse id).map fun target =>
      ⟨before ++ pairFor id ++ after,
        front.segments ++ (pairSegments id target ++ back.segments)⟩ := by
  have hchars : (before ++ pairFor id ++ after).toList =
      before.toList ++ ((pairFor id).toList ++ after.toList) := by simp
  rw [parse, hchars, pieces_pairFor hid hwhole, List.mapM_append, List.mapM_append, mapM_pair,
    mapM_of_parse hbefore, mapM_of_parse hafter]
  cases Target.parse id <;> rfl

/-- A text without placeholders is a template of one literal. -/
theorem parse_literal {text : String} (hne : text ≠ "") (hclosed : ¬ ['{', '{'] <:+: text.toList) :
    parse text = .ok ⟨text, [.literal text]⟩ := by
  have hpieces : pieces text.toList = [.gap text.toList] := by
    have hpassed := piecesFrom_literal hclosed (.inl rfl) []
    rw [List.append_nil, piecesFrom_nil, List.append_nil] at hpassed
    rw [pieces, hpassed]
    simp [gap, hne]
  rw [parse, hpieces, List.mapM_cons, Segment.ofPiece, String.ofList_toList]
  rfl

theorem parse_empty : parse "" = .ok ⟨"", []⟩ := by
  rw [parse, pieces, String.toList_empty, piecesFrom_nil]
  rfl

/-! ### Rendering -/

/-- **Rendering a command that asks for an ID** puts the name and the ARN into it, or fails
as the first of them does. -/
theorem render_pair {registry : Registry} (id text : String) (target : Target)
    {front back : Template} {lead trail : String} (hfront : front.render registry = .ok lead)
    (hback : back.render registry = .ok trail) :
    (⟨text, front.segments ++ (pairSegments id target ++ back.segments)⟩ : Template).render
        registry =
      (target.name registry).bind fun name => (target.arnText registry).map fun arn =>
        lead ++ (name ++ " " ++ arn) ++ trail := by
  have hlead : (⟨text, front.segments⟩ : Template).render registry = .ok lead := hfront
  have htrail : (⟨text, back.segments⟩ : Template).render registry = .ok trail := hback
  have hpair : (⟨text, pairSegments id target⟩ : Template).render registry =
      (target.name registry).bind fun name => (target.arnText registry).map fun arn =>
        name ++ " " ++ arn := by
    simp only [render, pairSegments, List.mapM_cons, List.mapM_nil, Segment.render, Hole.render]
    cases target.name registry with
    | error e => rfl
    | ok name =>
        cases target.arnText registry with
        | error e => rfl
        | ok arn =>
            have hjoined : String.join [name, " ", arn] = name ++ " " ++ arn := by
              simp [String.append_assoc]
            exact congrArg Except.ok hjoined
  rw [render_append, render_append, hlead, hpair, htrail]
  cases target.name registry with
  | error e => rfl
  | ok name =>
      cases target.arnText registry with
      | error e => rfl
      | ok arn => exact congrArg Except.ok (String.append_assoc ..).symm

end Template

end StackPlaybook
