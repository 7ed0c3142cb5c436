import StackPlaybook.Proofs.Template.Writing
import StackPlaybook.Proofs.Traversal

/-!
# StackPlaybook.Proofs.Template.Scanning

Any text as a template: which placeholders are found in it, and what becomes of them.

* `Finds` — the placeholders of a text from the left, none overlapping another, each with the
  characters passed over before it; every text has just one such list (`exists_finds`,
  `Finds.unique`), and cutting goes by it.
* `Means`, `Refused` — what a placeholder stands for, and why it may stand for nothing.
* `parse_eq` — so reading a text is reading the placeholders found in it, one after the other.
* `judged_parse` — the first of them that stands for nothing is the error; a text that is
  read is kept to the last character, and no placeholder is left in its literals.
-/

namespace StackPlaybook

namespace Placeholder

/-! ## Finding placeholders -/

/-- A placeholder begins at the front of the characters. -/
def Begins (cs : List Char) : Prop := ∃ p, Spelled p ∧ p.source <+: cs

/-- Reading fails just where no placeholder begins. -/
theorem read_eq_none_iff {cs : List Char} : read cs = none ↔ ¬ Begins cs := by
  constructor
  · rintro hnone ⟨p, hp, rest, rfl⟩
    rw [read_eq_some_iff.mpr ⟨hp, rfl⟩] at hnone
    cases hnone
  · intro hnot
    cases hread : read cs with
    | none => rfl
    | some found =>
        obtain ⟨p, rest⟩ := found
        obtain ⟨hp, rfl⟩ := read_eq_some_iff.mp hread
        exact absurd ⟨p, hp, rest, rfl⟩ hnot

theorem source_ne_nil_of_spelled {p : Placeholder} (h : Spelled p) : p.source ≠ [] := by
  cases h
  exact List.cons_ne_nil _ _

theorem not_begins_nil : ¬ Begins [] := fun ⟨_, hp, hprefix⟩ =>
  source_ne_nil_of_spelled hp (List.prefix_nil.mp hprefix)

/-- What begins at the front is there whatever follows. -/
theorem Begins.append {cs : List Char} (h : Begins cs) (rest : List Char) : Begins (cs ++ rest) :=
  let ⟨p, hp, hprefix⟩ := h
  ⟨p, hp, hprefix.trans (List.prefix_append cs rest)⟩

/-- A placeholder of a text, with the characters passed over before it. -/
structure Found where
  gap : List Char
  placeholder : Placeholder

/-- The placeholders that are found in a text from the left, none of them overlapping
another, and the characters after the last one. -/
inductive Finds : List Char → List Found → List Char → Prop where
  | last {tail : List Char} (free : ∀ cs, cs <:+ tail → ¬ Begins cs) : Finds tail [] tail
  | next {gap rest tail : List Char} {p : Placeholder} {found : List Found} (spelled : Spelled p)
      (leftmost : ∀ cs, cs <:+ gap → cs ≠ [] → ¬ Begins (cs ++ (p.source ++ rest)))
      (later : Finds rest found tail) :
      Finds (gap ++ (p.source ++ rest)) (⟨gap, p⟩ :: found) tail

/-- The placeholder found first is at one place only, and is only one. -/
theorem front_unique {gap gap' rest rest' : List Char} {p p' : Placeholder} (hp : Spelled p)
    (hp' : Spelled p')
    (hleft : ∀ cs, cs <:+ gap → cs ≠ [] → ¬ Begins (cs ++ (p.source ++ rest)))
    (hleft' : ∀ cs, cs <:+ gap' → cs ≠ [] → ¬ Begins (cs ++ (p'.source ++ rest')))
    (h : gap ++ (p.source ++ rest) = gap' ++ (p'.source ++ rest')) :
    gap = gap' ∧ p = p' ∧ rest = rest' := by
  -- If one gap went on where the other ends, a placeholder would begin in it.
  have hgap : gap = gap' ∧ p.source ++ rest = p'.source ++ rest' := by
    obtain ⟨as, rfl, hrest⟩ | ⟨as, rfl, hrest⟩ := List.append_eq_append_iff.mp h
    · cases as with
      | nil => exact ⟨(List.append_nil gap).symm, hrest⟩
      | cons a as =>
          exact absurd (hrest ▸ ⟨p, hp, rest, rfl⟩)
            (hleft' _ (List.suffix_append gap (a :: as)) (List.cons_ne_nil a as))
    · cases as with
      | nil => exact ⟨List.append_nil gap', hrest.symm⟩
      | cons a as =>
          exact absurd (hrest ▸ ⟨p', hp', rest', rfl⟩)
            (hleft _ (List.suffix_append gap' (a :: as)) (List.cons_ne_nil a as))
  have hread : read (p.source ++ rest) = some (p, rest) := read_eq_some_iff.mpr ⟨hp, rfl⟩
  rw [hgap.2, read_eq_some_iff.mpr ⟨hp', rfl⟩] at hread
  obtain ⟨rfl, rfl⟩ := Prod.mk.inj (Option.some.inj hread)
  exact ⟨hgap.1, rfl, rfl⟩

/-- **A text has one list of placeholders.** -/
theorem Finds.unique {cs tail tail' : List Char} {found found' : List Found}
    (h : Finds cs found tail) (h' : Finds cs found' tail') : found = found' ∧ tail = tail' := by
  induction h generalizing found' tail' with
  | last free =>
      cases h' with
      | last free' => exact ⟨rfl, rfl⟩
      | @next gap rest _ p _ spelled leftmost later =>
          exact absurd ⟨p, spelled, rest, rfl⟩ (free _ (List.suffix_append gap _))
  | @next gap rest tail p found spelled leftmost later ih =>
      generalize hcs : gap ++ (p.source ++ rest) = cs at h'
      cases h' with
      | last free' =>
          exact absurd ⟨p, spelled, rest, rfl⟩ (free' _ (hcs ▸ List.suffix_append gap _))
      | next spelled' leftmost' later' =>
          obtain ⟨rfl, rfl, rfl⟩ := front_unique spelled spelled' leftmost leftmost' hcs
          obtain ⟨rfl, rfl⟩ := ih later'
          exact ⟨rfl, rfl⟩

/-- Nothing is lost: what is passed over and what is found make up the text. -/
theorem Finds.source_eq {cs tail : List Char} {found : List Found} (h : Finds cs found tail) :
    found.flatMap (fun f => f.gap ++ f.placeholder.source) ++ tail = cs := by
  induction h with
  | last free => rfl
  | next spelled leftmost later ih => rw [List.flatMap_cons, List.append_assoc, ih, List.append_assoc]

/-- No placeholder is spelled out within a run of characters. -/
def Free (run : List Char) : Prop := ∀ p, Spelled p → ¬ p.source <:+: run

/-- A run in which none begins is free of placeholders. -/
theorem free_of_not_begins {run : List Char} (h : ∀ cs, cs <:+ run → cs ≠ [] → ¬ Begins cs) :
    Free run := by
  rintro p hp ⟨before, after, rfl⟩
  refine h (p.source ++ after) ?_ ?_ ⟨p, hp, after, rfl⟩
  · rw [List.append_assoc]
    exact List.suffix_append before _
  · exact fun hnil => source_ne_nil_of_spelled hp (List.append_eq_nil_iff.mp hnil).1

/-- What is passed over holds no placeholder. -/
theorem Finds.free {cs tail : List Char} {found : List Found} (h : Finds cs found tail) :
    (∀ f ∈ found, Free f.gap) ∧ Free tail := by
  induction h with
  | last free => exact ⟨nofun, free_of_not_begins fun cs hcs _ => free cs hcs⟩
  | next spelled leftmost later ih =>
      refine ⟨List.forall_mem_cons.mpr ⟨free_of_not_begins fun cs hcs hne hbegins => ?_, ih.1⟩, ih.2⟩
      exact leftmost cs hcs hne (hbegins.append _)

/-! ## Cutting goes by what is found -/

/-- The pieces of a text with these placeholders. -/
def laid (found : List Found) (tail : List Char) : List Piece :=
  found.flatMap (fun f => gap f.gap.reverse ++ [.hole f.placeholder]) ++ gap tail.reverse

theorem laid_cons (f : Found) (found : List Found) (tail : List Char) :
    laid (f :: found) tail = gap f.gap.reverse ++ .hole f.placeholder :: laid found tail := by
  simp [laid]

/-- The invariant of cutting is that no placeholder begins in what has been passed over. -/
theorem exists_finds_piecesFrom (seen cs : List Char)
    (h : ∀ ds, ds <:+ seen.reverse → ds ≠ [] → ¬ Begins (ds ++ cs)) :
    ∃ found tail, Finds (seen.reverse ++ cs) found tail ∧ piecesFrom seen cs = laid found tail := by
  fun_induction piecesFrom seen cs with
  | case1 seen =>
      refine ⟨[], seen.reverse, ?_, by simp [laid]⟩
      rw [List.append_nil]
      refine .last fun ds hds hbegins => ?_
      cases ds with
      | nil => exact not_begins_nil hbegins
      | cons d ds => exact h _ hds (List.cons_ne_nil d ds) (by rwa [List.append_nil])
  | case2 seen c cs p rest hread ih =>
      obtain ⟨hspelled, htext⟩ := read_eq_some_iff.mp hread
      obtain ⟨found, tail, hfinds, hlaid⟩ := ih fun ds hds hne =>
        absurd (List.suffix_nil.mp hds) hne
      rw [htext] at h ⊢
      refine ⟨⟨seen.reverse, p⟩ :: found, tail, .next hspelled h hfinds, ?_⟩
      rw [laid_cons, hlaid, List.reverse_reverse]
  | case3 seen c cs hread ih =>
      have hpassed : ∀ ds, ds <:+ (c :: seen).reverse → ds ≠ [] → ¬ Begins (ds ++ cs) := by
        intro ds hds hne
        rw [List.reverse_cons] at hds
        obtain rfl | ⟨es, rfl, hes⟩ := List.suffix_concat_iff.mp hds
        · exact absurd rfl hne
        · rw [List.append_assoc, List.singleton_append]
          cases es with
          | nil => exact read_eq_none_iff.mp hread
          | cons e es => exact h _ hes (List.cons_ne_nil e es)
      obtain ⟨found, tail, hfinds, hlaid⟩ := ih hpassed
      refine ⟨found, tail, ?_, hlaid⟩
      rwa [List.reverse_cons, List.append_assoc] at hfinds

/-- **Cutting goes by the placeholders that are found.** -/
theorem exists_finds (cs : List Char) :
    ∃ found tail, Finds cs found tail ∧ pieces cs = laid found tail :=
  exists_finds_piecesFrom [] cs fun _ hds hne => absurd (List.suffix_nil.mp hds) hne

/-! ## What a placeholder stands for -/

/-- What a placeholder stands for: the ARN or the name of its argument, which must be a
target, or something about the stack, for which it has no argument. -/
inductive Means : Placeholder → Hole → Prop where
  | arn {source : List Char} {id : String} {target : Target} (parsed : Target.parse id = .ok target) :
      Means ⟨source, "arn".toList, some id.toList⟩ (.arn target)
  | name {source : List Char} {id : String} {target : Target}
      (parsed : Target.parse id = .ok target) :
      Means ⟨source, "name".toList, some id.toList⟩ (.name target)
  | region {source : List Char} : Means ⟨source, "region".toList, none⟩ .region
  | account {source : List Char} : Means ⟨source, "account".toList, none⟩ .account
  | stack {source : List Char} : Means ⟨source, "stack".toList, none⟩ .stack

/-- A placeholder that asks for the ARN or the name of something. -/
def AsksTarget (p : Placeholder) : Prop :=
  (p.key = "arn".toList ∨ p.key = "name".toList) ∧ p.arg ≠ none

/-- A placeholder that asks for something about the stack. -/
def AsksStack (p : Placeholder) : Prop :=
  (p.key = "region".toList ∨ p.key = "account".toList ∨ p.key = "stack".toList) ∧ p.arg = none

/-- Why a placeholder of a text is refused: its argument is no ARN though it starts like one,
or it asks for nothing that there is. -/
inductive Refused (text : String) : Placeholder → Error → Prop where
  | malformed {source key : List Char} {id : String} (asks : key = "arn".toList ∨ key = "name".toList)
      (refused : Target.parse id = .error (.invalidArn id (colonSegments id))) :
      Refused text ⟨source, key, some id.toList⟩ (.invalidArn id (colonSegments id))
  | unknown {p : Placeholder} (no_target : ¬ p.AsksTarget) (no_stack : ¬ p.AsksStack) :
      Refused text p (.config
        ("Unknown placeholder '" ++ String.ofList p.source ++ "' in '" ++ text ++ "'"))

/-- A placeholder is read as what it means. -/
theorem ofPlaceholder_of_means {p : Placeholder} {hole : Hole} (h : Means p hole) (text : String) :
    Hole.ofPlaceholder text p = .ok hole := by
  cases h with
  | arn parsed => simp [Hole.ofPlaceholder, parsed, Except.map]
  | name parsed => simp [Hole.ofPlaceholder, parsed, Except.map]
  | region => simp [Hole.ofPlaceholder]
  | account => simp [Hole.ofPlaceholder]
  | stack => simp [Hole.ofPlaceholder]

/-- The key and the argument of a placeholder are texts. -/
theorem exists_texts (p : Placeholder) : ∃ (source : List Char) (key : String)
    (arg : Option String), p = ⟨source, key.toList, arg.map String.toList⟩ := by
  obtain ⟨source, key, arg⟩ := p
  refine ⟨source, String.ofList key, arg.map String.ofList, ?_⟩
  cases arg <;> simp

theorem map_ofList_map_toList (arg : Option String) :
    (arg.map String.toList).map String.ofList = arg := by
  cases arg <;> simp

/-- **A placeholder is understood** just if it stands for something. -/
theorem ofPlaceholder_eq_ok_iff {text : String} {p : Placeholder} {hole : Hole} :
    Hole.ofPlaceholder text p = .ok hole ↔ Means p hole := by
  refine ⟨fun h => ?_, fun h => ofPlaceholder_of_means h text⟩
  obtain ⟨source, key, arg, rfl⟩ := exists_texts p
  simp only [Hole.ofPlaceholder, String.ofList_toList, map_ofList_map_toList] at h
  split at h
  · obtain ⟨target, hparsed, rfl⟩ := exists_of_map_eq_ok h
    exact .arn hparsed
  · obtain ⟨target, hparsed, rfl⟩ := exists_of_map_eq_ok h
    exact .name hparsed
  · obtain rfl := Except.ok.inj h
    exact .region
  · obtain rfl := Except.ok.inj h
    exact .account
  · obtain rfl := Except.ok.inj h
    exact .stack
  · cases h

/-- A placeholder that is refused gives its error. -/
theorem ofPlaceholder_of_refused {text : String} {p : Placeholder} {e : Error}
    (h : Refused text p e) : Hole.ofPlaceholder text p = .error e := by
  cases h with
  | malformed asks refused =>
      obtain rfl | rfl := asks
      · simp [Hole.ofPlaceholder, refused, Except.map]
      · simp [Hole.ofPlaceholder, refused, Except.map]
  | unknown no_target no_stack =>
      obtain ⟨source, key, arg, rfl⟩ := exists_texts p
      simp only [Hole.ofPlaceholder, String.ofList_toList, map_ofList_map_toList]
      split
      · exact absurd ⟨.inl rfl, Option.some_ne_none _⟩ no_target
      · exact absurd ⟨.inr rfl, Option.some_ne_none _⟩ no_target
      · exact absurd ⟨.inl rfl, rfl⟩ no_stack
      · exact absurd ⟨.inr (.inl rfl), rfl⟩ no_stack
      · exact absurd ⟨.inr (.inr rfl), rfl⟩ no_stack
      · rfl

/-- **A placeholder is an error** just if it is refused, for that error. -/
theorem ofPlaceholder_eq_error_iff {text : String} {p : Placeholder} {e : Error} :
    Hole.ofPlaceholder text p = .error e ↔ Refused text p e := by
  refine ⟨fun h => ?_, ofPlaceholder_of_refused⟩
  obtain ⟨source, key, arg, rfl⟩ := exists_texts p
  simp only [Hole.ofPlaceholder, String.ofList_toList, map_ofList_map_toList] at h
  split at h
  · have hrefused := map_eq_error_iff.mp h
    obtain rfl := Target.invalidArn_of_parse hrefused
    exact .malformed (.inl rfl) hrefused
  · have hrefused := map_eq_error_iff.mp h
    obtain rfl := Target.invalidArn_of_parse hrefused
    exact .malformed (.inr rfl) hrefused
  · cases h
  · cases h
  · cases h
  · next harn hname hregion haccount hstack =>
    obtain rfl := Except.error.inj h
    refine .unknown ?_ ?_
    · rintro ⟨hkey, harg⟩
      obtain ⟨id, rfl⟩ : ∃ id, arg = some id :=
        Option.ne_none_iff_exists'.mp fun hnone => harg (by rw [hnone]; rfl)
      obtain hkey | hkey := hkey
      · exact harn id (String.toList_inj.mp hkey) rfl
      · exact hname id (String.toList_inj.mp hkey) rfl
    · rintro ⟨hkey, harg⟩
      obtain rfl := Option.map_eq_none_iff.mp harg
      obtain hkey | hkey | hkey := hkey
      · exact hregion (String.toList_inj.mp hkey) rfl
      · exact haccount (String.toList_inj.mp hkey) rfl
      · exact hstack (String.toList_inj.mp hkey) rfl

end Placeholder

/-! ## Reading a text -/

namespace Segment

/-- The segment of a run of characters, if there are any. -/
def run (cs : List Char) : List Segment :=
  if cs.isEmpty then [] else [.literal (String.ofList cs)]

def isLiteral : Segment → Bool
  | .literal _ => true
  | .hole .. => false

/-- The source text of a placeholder and what it stands for. -/
def hole? : Segment → Option (String × Hole)
  | .literal _ => none
  | .hole source value => some (source, value)

theorem flatMap_source_run (cs : List Char) : (run cs).flatMap (·.source.toList) = cs := by
  cases cs <;> simp [run, source]

theorem filterMap_hole?_run (cs : List Char) : (run cs).filterMap hole? = [] := by
  cases cs <;> rfl

theorem mem_run {cs : List Char} {s : String} (h : .literal s ∈ run cs) :
    s ≠ "" ∧ s.toList = cs := by
  cases cs with
  | nil => cases h
  | cons c cs =>
      obtain rfl : s = String.ofList (c :: cs) := by simpa [run] using h
      exact ⟨by simp, String.toList_ofList ..⟩

/-- A gap becomes the segment of its characters. -/
theorem mapM_gap (text : String) (cs : List Char) :
    (Placeholder.gap cs.reverse).mapM (ofPiece text) = .ok (run cs) := by
  cases cs with
  | nil => rfl
  | cons c cs => simp [Placeholder.gap, run, ofPiece]

end Segment

namespace Template

open Placeholder

/-- Two neighbours are not both literals. -/
def Apart (a b : Segment) : Prop := ¬ (a.isLiteral = true ∧ b.isLiteral = true)

/-- The segments of a text, where the placeholders found in it stand for these things. -/
def segmentsOf : List Found → List Hole → List Char → List Segment
  | f :: found, hole :: holes, tail =>
    Segment.run f.gap ++
      .hole (String.ofList f.placeholder.source) hole :: segmentsOf found holes tail
  | _, _, tail => Segment.run tail

/-- The pieces of a text become segments unless one of its placeholders is refused. -/
theorem mapM_laid (text : String) (found : List Found) (tail : List Char) :
    (laid found tail).mapM (Segment.ofPiece text) =
      (found.mapM fun f => Hole.ofPlaceholder text f.placeholder).map fun holes =>
        segmentsOf found holes tail := by
  induction found with
  | nil => exact Segment.mapM_gap text tail
  | cons f found ih =>
      rw [laid_cons, List.mapM_append, Segment.mapM_gap, mapM_cons_eq_map, mapM_cons_eq_map, ih,
        Segment.ofPiece]
      cases Hole.ofPlaceholder text f.placeholder with
      | error e => rfl
      | ok hole =>
          cases found.mapM fun f => Hole.ofPlaceholder text f.placeholder <;> rfl

/-- **Reading a text** is reading the placeholders found in it. -/
theorem parse_eq {text : String} {found : List Found} {tail : List Char}
    (h : Finds text.toList found tail) :
    parse text = (found.mapM fun f => Hole.ofPlaceholder text f.placeholder).map fun holes =>
      ⟨text, segmentsOf found holes tail⟩ := by
  obtain ⟨found', tail', hfinds, hpieces⟩ := exists_finds text.toList
  obtain ⟨rfl, rfl⟩ := h.unique hfinds
  rw [parse, hpieces, mapM_laid]
  cases found.mapM fun f => Hole.ofPlaceholder text f.placeholder <;> rfl

/-- The placeholders of a template stand for these things. -/
theorem exists_of_parse {text : String} {t : Template} {found : List Found} {tail : List Char}
    (h : Finds text.toList found tail) (hparse : parse text = .ok t) :
    ∃ holes, List.Forall₂ (fun f hole => Means f.placeholder hole) found holes ∧
      t = ⟨text, segmentsOf found holes tail⟩ := by
  rw [parse_eq h] at hparse
  obtain ⟨holes, hholes, rfl⟩ := exists_of_map_eq_ok hparse
  exact ⟨holes, (mapM_eq_ok_iff.mp hholes).imp fun _ _ => ofPlaceholder_eq_ok_iff.mp, rfl⟩

section Segments

variable {found : List Found} {holes : List Hole}
  (h : List.Forall₂ (fun f hole => Means f.placeholder hole) found holes) (tail : List Char)
include h

/-- The segments are written as the text is. -/
theorem flatMap_source_segmentsOf :
    (segmentsOf found holes tail).flatMap (·.source.toList) =
      found.flatMap (fun f => f.gap ++ f.placeholder.source) ++ tail := by
  induction h with
  | nil => exact Segment.flatMap_source_run tail
  | cons hmeans _ ih =>
      simp only [segmentsOf, List.flatMap_append, List.flatMap_cons, Segment.flatMap_source_run, ih]
      simp [Segment.source]

/-- The placeholders among the segments are the ones found, with what they mean. -/
theorem filterMap_hole?_segmentsOf :
    List.Forall₂ (fun f hole => Means f.placeholder hole.2 ∧
      hole.1 = String.ofList f.placeholder.source) found
        ((segmentsOf found holes tail).filterMap Segment.hole?) := by
  induction h with
  | nil =>
      rw [segmentsOf, Segment.filterMap_hole?_run]
      · exact .nil
      · nofun
  | cons hmeans _ ih =>
      rw [segmentsOf, List.filterMap_append, Segment.filterMap_hole?_run]
      exact .cons ⟨hmeans, rfl⟩ ih

/-- A literal is what was passed over at one place. -/
theorem exists_run_of_mem {s : String} (hs : .literal s ∈ segmentsOf found holes tail) :
    .literal s ∈ Segment.run tail ∨ ∃ f ∈ found, .literal s ∈ Segment.run f.gap := by
  induction h with
  | nil => exact .inl hs
  | @cons f hole found holes hmeans _ ih =>
      rw [segmentsOf, List.mem_append, List.mem_cons] at hs
      obtain hs | hs | hs := hs
      · exact .inr ⟨f, List.mem_cons_self, hs⟩
      · cases hs
      · obtain hs | ⟨g, hg, hs⟩ := ih hs
        · exact .inl hs
        · exact .inr ⟨g, List.mem_cons_of_mem f hg, hs⟩

/-- A literal stands between placeholders. -/
theorem apart_segmentsOf : (segmentsOf found holes tail).IsChain Apart := by
  induction h with
  | nil => cases tail <;> simp [segmentsOf, Segment.run]
  | @cons f hole found holes hmeans _ ih =>
      have hrest : List.IsChain Apart
          (.hole (String.ofList f.placeholder.source) hole :: segmentsOf found holes tail) :=
        List.isChain_cons.mpr ⟨fun _ _ => by simp [Apart, Segment.isLiteral], ih⟩
      rw [segmentsOf, Segment.run]
      split
      · exact hrest
      · exact List.isChain_cons_cons.mpr ⟨by simp [Apart, Segment.isLiteral], hrest⟩

end Segments

/-- What a template keeps of its text: all of it.  Its placeholders are those that are found
in the text, and its literals hold none. -/
structure Kept (text : String) (found : List Found) (t : Template) : Prop where
  source : t.source = text
  /-- The placeholders are those of the text, in order, with what they stand for. -/
  holes : List.Forall₂ (fun f hole => Means f.placeholder hole.2 ∧
    hole.1 = String.ofList f.placeholder.source) found (t.segments.filterMap Segment.hole?)
  /-- With the source text of every placeholder the segments are the text. -/
  restored : String.join (t.segments.map Segment.source) = text
  nonempty : ∀ s, .literal s ∈ t.segments → s ≠ ""
  apart : t.segments.IsChain Apart
  free : ∀ s, .literal s ∈ t.segments → Free s.toList

/-- A template that is accepted keeps all of its text. -/
theorem kept_of_parse {text : String} {t : Template} {found : List Found} {tail : List Char}
    (hfinds : Finds text.toList found tail) (hparse : parse text = .ok t) : Kept text found t := by
  obtain ⟨holes, hholes, rfl⟩ := exists_of_parse hfinds hparse
  constructor
  case source => rfl
  case holes => exact filterMap_hole?_segmentsOf hholes tail
  case restored =>
    refine String.toList_inj.mp ?_
    rw [String.toList_join, List.flatMap_map, flatMap_source_segmentsOf hholes, hfinds.source_eq]
  case nonempty =>
    intro s hs
    obtain hs | ⟨f, -, hs⟩ := exists_run_of_mem hholes tail hs
    · exact (Segment.mem_run hs).1
    · exact (Segment.mem_run hs).1
  case apart => exact apart_segmentsOf hholes tail
  case free =>
    intro s hs
    obtain hs | ⟨f, hf, hs⟩ := exists_run_of_mem hholes tail hs
    · rw [(Segment.mem_run hs).2]
      exact hfinds.free.2
    · rw [(Segment.mem_run hs).2]
      exact hfinds.free.1 f hf

/-- **What becomes of a text as a template.**  There is one way to find placeholders in it from
the left.  It is accepted just if all of them stand for something; otherwise the error is that
of the first one that does not.  A text that is accepted is kept to the last character. -/
theorem judged_parse (text : String) :
    ∃ found tail, Finds text.toList found tail ∧
      (∀ found' tail', Finds text.toList found' tail' → found' = found ∧ tail' = tail) ∧
      ((∃ t, parse text = .ok t) ↔ ∀ f ∈ found, ∃ hole, Means f.placeholder hole) ∧
      (∀ e, parse text = .error e ↔ ∃ before f after, found = before ++ f :: after ∧
        (∀ g ∈ before, ∃ hole, Means g.placeholder hole) ∧ Refused text f.placeholder e) ∧
      ∀ t, parse text = .ok t → Kept text found t := by
  obtain ⟨found, tail, hfinds, -⟩ := exists_finds text.toList
  refine ⟨found, tail, hfinds, fun _ _ h => h.unique hfinds, ?_, fun e => ?_,
    fun t => kept_of_parse hfinds⟩
  · rw [parse_eq hfinds, exists_map_eq_ok_iff, exists_mapM_eq_ok_iff]
    simp only [ofPlaceholder_eq_ok_iff]
  · rw [parse_eq hfinds, map_eq_error_iff, mapM_eq_error_iff]
    simp only [ofPlaceholder_eq_ok_iff, ofPlaceholder_eq_error_iff]

end Template

end StackPlaybook
