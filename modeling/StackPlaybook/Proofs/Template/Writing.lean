import Mathlib.Data.List.Chain
import Mathlib.Data.List.TakeWhile
import StackPlaybook.Template

/-!
# StackPlaybook.Proofs.Template.Writing

Templates as their authors write them: literals, and placeholders with as many blanks
inside the braces as one likes.  Reading what was written gives the same parts again:

* `read_eq_some_iff` — reading finds just the placeholders of the grammar (`Spelled`);
* `read_append` — so a written one is read up to its closing braces, whatever follows;
* `piecesFrom_literal` — no placeholder is found in a literal, nor across its end;
* `parse_written` — so a written text has just the segments that it was written with.
-/

namespace StackPlaybook

namespace Template

/-! ## Parts of a text -/

/-- Blanks as they may stand inside the braces. -/
structure Blanks where
  chars : List Char
  blank : ∀ c ∈ chars, Text.isBlank c = true

/-- A target that can be the argument of a placeholder. -/
structure Reference where
  text : String
  nonempty : text ≠ ""
  plain : ∀ c ∈ text.toList, c ≠ '}' ∧ Text.isBlank c = false
  target : Target
  parse_text : Target.parse text = .ok target

/-- What a placeholder may ask for. -/
inductive Slot where
  | arn (id : Reference)
  | name (id : Reference)
  | region
  | account
  | stack

/-- A part of a text as it is written: a literal without two opening braces in a row, or
a placeholder. -/
inductive Part where
  | literal (text : String) (nonempty : text ≠ "") (closed : ¬ ['{', '{'] <:+: text.toList)
  | slot (before : Blanks) (slot : Slot) (after : Blanks)

namespace Slot

/-- What is written between the blanks. -/
def text : Slot → String
  | .arn id => "arn:" ++ id.text
  | .name id => "name:" ++ id.text
  | .region => "region"
  | .account => "account"
  | .stack => "stack"

/-- What a placeholder for it stands for. -/
def hole : Slot → Hole
  | .arn id => .arn id.target
  | .name id => .name id.target
  | .region => .region
  | .account => .account
  | .stack => .stack

end Slot

namespace Part

def isLiteral : Part → Bool
  | .literal .. => true
  | .slot .. => false

def text : Part → String
  | .literal text .. => text
  | .slot before s after =>
    "\x7b\x7b" ++ String.ofList before.chars ++ s.text ++ String.ofList after.chars ++ "\x7d\x7d"

/-- The segment that the part is to be read as. -/
def segment : Part → Segment
  | .literal text .. => .literal text
  | .slot before s after => .hole (slot before s after).text s.hole

end Part

end Template

/-! ## One placeholder -/

namespace Placeholder

/-- What may follow a key or an argument: blanks up to the closing braces. -/
theorem exists_cons_of_close {after : List Char} (rest : List Char)
    (h : ∀ c ∈ after, Text.isBlank c = true) :
    ∃ c cs, after ++ '}' :: '}' :: rest = c :: cs ∧ (Text.isBlank c = true ∨ c = '}') := by
  cases after with
  | nil => exact ⟨'}', _, rfl, .inr rfl⟩
  | cons c cs => exact ⟨c, _, rfl, .inl (h c List.mem_cons_self)⟩

/-- No character of a key is a blank. -/
theorem isBlank_of_isKeyChar {c : Char} (h : isKeyChar c = true) : Text.isBlank c = false := by
  have hrange : 97 ≤ c.toNat ∧ c.toNat ≤ 122 := by
    simp only [isKeyChar, Bool.and_eq_true, decide_eq_true_eq] at h
    exact h
  simp only [Text.isBlank, Bool.or_eq_false_iff, Bool.and_eq_false_iff, beq_eq_false_iff_ne,
    decide_eq_false_iff_not]
  omega

theorem isKeyChar_of_isBlank {c : Char} (h : Text.isBlank c = true) : isKeyChar c = false := by
  cases hkey : isKeyChar c with
  | false => rfl
  | true => rw [isBlank_of_isKeyChar hkey] at h; cases h

theorem trimFront_append {blanks rest : List Char} (h : ∀ c ∈ blanks, Text.isBlank c = true) :
    Text.trimFront (blanks ++ rest) = Text.trimFront rest :=
  List.dropWhile_append_of_pos h

theorem trimFront_cons {c : Char} {cs : List Char} (h : Text.isBlank c = false) :
    Text.trimFront (c :: cs) = c :: cs :=
  List.dropWhile_cons_of_neg (by simp [h])

/-- A run of characters of a class, and the first one that is not of the class. -/
theorem run_append {p : Char → Bool} {run : List Char} {c : Char} (cs : List Char)
    (hrun : ∀ a ∈ run, p a = true) (hc : p c = false) :
    (run ++ c :: cs).takeWhile p = run ∧ (run ++ c :: cs).dropWhile p = c :: cs := by
  have hstop : ¬ p c = true := by simp [hc]
  rw [List.takeWhile_append_of_pos hrun, List.takeWhile_cons_of_neg hstop, List.append_nil,
    List.dropWhile_append_of_pos hrun, List.dropWhile_cons_of_neg hstop]
  exact ⟨rfl, rfl⟩

/-- The argument with its colon. -/
def argText : Option (List Char) → List Char
  | some arg => ':' :: arg
  | none => []

/-- An argument is read up to a blank or a closing brace. -/
theorem readArg_append {arg : Option (List Char)} {c : Char} {cs : List Char}
    (harg : ∀ id ∈ arg, id ≠ [] ∧ ∀ c ∈ id, isArgChar c = true)
    (hc : Text.isBlank c = true ∨ c = '}') :
    readArg (argText arg ++ c :: cs) = (arg, c :: cs) := by
  have hstop : isArgChar c = false := by
    rcases hc with hc | rfl
    · simp [isArgChar, hc]
    · rfl
  cases arg with
  | none =>
      have hcolon : c ≠ ':' := by
        rintro rfl
        rcases hc with hc | hc <;> revert hc <;> decide
      simp [argText, readArg, hcolon]
  | some id =>
      obtain ⟨hne, hall⟩ := harg id rfl
      obtain ⟨htake, hdrop⟩ := run_append cs hall hstop
      simp only [argText, List.cons_append, readArg, htake, hdrop]

/-- **What is inside the braces** is read up to the closing ones. -/
theorem readInside_append {before key after : List Char} {arg : Option (List Char)}
    (rest : List Char) (hbefore : ∀ c ∈ before, Text.isBlank c = true) (hne : key ≠ [])
    (hkey : ∀ c ∈ key, isKeyChar c = true)
    (harg : ∀ id ∈ arg, id ≠ [] ∧ ∀ c ∈ id, isArgChar c = true)
    (hafter : ∀ c ∈ after, Text.isBlank c = true) :
    readInside (before ++ (key ++ (argText arg ++ (after ++ '}' :: '}' :: rest)))) =
      some ((key, arg), rest) := by
  obtain ⟨c, cs, hclose, hc⟩ := exists_cons_of_close rest hafter
  -- A key ends before a colon, a blank or a brace, none of which is a small letter.
  have hend : ∃ d ds, argText arg ++ (after ++ '}' :: '}' :: rest) = d :: ds ∧
      isKeyChar d = false := by
    cases arg with
    | some id => exact ⟨':', _, rfl, rfl⟩
    | none =>
        refine ⟨c, cs, hclose, ?_⟩
        rcases hc with hc | rfl
        · exact isKeyChar_of_isBlank hc
        · rfl
  obtain ⟨d, ds, hd, hstop⟩ := hend
  have htrim : Text.trimFront (before ++ (key ++ d :: ds)) = key ++ d :: ds := by
    rw [trimFront_append hbefore]
    cases key with
    | nil => exact absurd rfl hne
    | cons k ks =>
        rw [List.cons_append, trimFront_cons (isBlank_of_isKeyChar (hkey k List.mem_cons_self))]
  obtain ⟨htake, hdrop⟩ := run_append ds hkey hstop
  have hread : readArg (d :: ds) = (arg, after ++ '}' :: '}' :: rest) := by
    rw [← hd, hclose, readArg_append harg hc]
  have hbraces : Text.trimFront (after ++ '}' :: '}' :: rest) = '}' :: '}' :: rest := by
    rw [trimFront_append hafter, trimFront_cons rfl]
  have hfull : key.isEmpty = false := by
    rw [List.isEmpty_eq_false_iff]
    exact hne
  rw [hd, readInside]
  simp only [htrim, htake, hdrop, hread, hbraces, hfull]
  rfl

/-! ### The grammar -/

/-- The source of a placeholder: braces, blanks, the key, an argument, blanks and braces. -/
inductive Spelled : Placeholder → Prop
  | intro {before key after : List Char} {arg : Option (List Char)}
      (before_blank : ∀ c ∈ before, Text.isBlank c = true) (key_ne_nil : key ≠ [])
      (key_plain : ∀ c ∈ key, isKeyChar c = true)
      (arg_plain : ∀ id ∈ arg, id ≠ [] ∧ ∀ c ∈ id, isArgChar c = true)
      (after_blank : ∀ c ∈ after, Text.isBlank c = true) :
      Spelled ⟨'{' :: '{' :: (before ++ (key ++ (argText arg ++ (after ++ ['}', '}'])))), key, arg⟩

/-- What is taken as an argument is one, and nothing is lost. -/
theorem readArg_spec (cs : List Char) :
    argText (readArg cs).1 ++ (readArg cs).2 = cs ∧
      ∀ id ∈ (readArg cs).1, id ≠ [] ∧ ∀ c ∈ id, isArgChar c = true := by
  unfold readArg
  split
  · next cs =>
    split
    · exact ⟨rfl, by simp⟩
    · next arg harg =>
      refine ⟨by simp [argText], ?_⟩
      rintro id ⟨⟩
      exact ⟨harg, fun c hc => List.mem_takeWhile_imp hc⟩
  · exact ⟨rfl, by simp⟩

/-- What is read from inside the braces is spelled out there. -/
theorem exists_of_readInside {cs rest key : List Char} {arg : Option (List Char)}
    (h : readInside cs = some ((key, arg), rest)) :
    ∃ source, cs = source ++ rest ∧ Spelled ⟨'{' :: '{' :: source, key, arg⟩ := by
  have hfront := List.takeWhile_append_dropWhile (p := Text.isBlank) (l := cs)
  rw [← Text.trimFront] at hfront
  have hkey := List.takeWhile_append_dropWhile (p := isKeyChar) (l := Text.trimFront cs)
  obtain ⟨harg, hplain⟩ := readArg_spec ((Text.trimFront cs).dropWhile isKeyChar)
  unfold readInside at h
  simp only at h
  generalize readArg ((Text.trimFront cs).dropWhile isKeyChar) = x at harg hplain h
  obtain ⟨arg', tail⟩ := x
  have htail := List.takeWhile_append_dropWhile (p := Text.isBlank) (l := tail)
  rw [← Text.trimFront] at htail
  split at h
  · next rest' hclose =>
    split at h
    · cases h
    · next hne =>
      cases h
      have hbefore : ∀ c ∈ cs.takeWhile Text.isBlank, Text.isBlank c = true :=
        fun c hc => List.mem_takeWhile_imp hc
      have hafter : ∀ c ∈ tail.takeWhile Text.isBlank, Text.isBlank c = true :=
        fun c hc => List.mem_takeWhile_imp hc
      refine ⟨_, ?_, .intro hbefore (by simpa using hne) (fun c hc => List.mem_takeWhile_imp hc)
        hplain hafter⟩
      have hclosed : tail.takeWhile Text.isBlank ++ '}' :: '}' :: rest = tail := by
        rw [← hclose]
        exact htail
      simp only [List.append_assoc, List.cons_append, List.nil_append, hclosed, harg, hkey, hfront]
  · cases h

/-- **Reading follows the grammar**: a placeholder is read from a text just if it is spelled
out at its front. -/
theorem read_eq_some_iff {cs rest : List Char} {p : Placeholder} :
    read cs = some (p, rest) ↔ Spelled p ∧ cs = p.source ++ rest := by
  constructor
  · intro h
    have happend := eq_append_of_read h
    refine ⟨?_, happend⟩
    unfold read at h
    split at h
    · next inner =>
      obtain ⟨⟨⟨key, arg⟩, r⟩, hinside, heq⟩ := Option.map_eq_some_iff.1 h
      obtain ⟨rfl, rfl⟩ := Prod.mk.inj heq
      obtain ⟨source, hsource, hspelled⟩ := exists_of_readInside hinside
      have htext : '{' :: '{' :: source ++ r =
          '{' :: '{' :: inner.take (inner.length - r.length) ++ r := by
        rw [← happend, hsource]
        rfl
      rw [← List.append_cancel_right htext]
      exact hspelled
    · cases h
  · rintro ⟨hspelled, rfl⟩
    cases hspelled with
    | @intro before key after arg before_blank key_ne_nil key_plain arg_plain after_blank =>
        let source := '{' :: '{' :: (before ++ (key ++ (argText arg ++ (after ++ ['}', '}']))))
        have htext : source ++ rest = '{' :: '{' ::
            (before ++ (key ++ (argText arg ++ (after ++ '}' :: '}' :: rest)))) := by
          simp [source]
        obtain ⟨source', hread⟩ : ∃ source',
            read (source ++ rest) = some (⟨source', key, arg⟩, rest) := by
          rw [htext, read, readInside_append rest before_blank key_ne_nil key_plain arg_plain
            after_blank]
          exact ⟨_, rfl⟩
        have hsource : source = source' := List.append_cancel_right (eq_append_of_read hread)
        rw [← hsource] at hread
        exact hread

end Placeholder

namespace Template

/-- An ID that can be the argument of a placeholder. -/
structure Placeable (id : String) : Prop where
  nonempty : id ≠ ""
  plain : ∀ c ∈ id.toList, c ≠ '}' ∧ Text.isBlank c = false

/-- An ID that is placeable is an argument. -/
theorem Placeable.arg_plain {id : String} (h : Placeable id) :
    ∀ arg ∈ some id.toList, arg ≠ [] ∧ ∀ c ∈ arg, Placeholder.isArgChar c = true := by
  rintro arg ⟨⟩
  refine ⟨by simpa using h.nonempty, fun c hc => ?_⟩
  obtain ⟨hbrace, hblank⟩ := h.plain c hc
  simp [Placeholder.isArgChar, hbrace, hblank]

theorem Reference.placeable (r : Reference) : Placeable r.text := ⟨r.nonempty, r.plain⟩

namespace Slot

def key : Slot → String
  | .arn _ => "arn"
  | .name _ => "name"
  | .region => "region"
  | .account => "account"
  | .stack => "stack"

def arg : Slot → Option (List Char)
  | .arn id | .name id => some id.text.toList
  | _ => none

theorem toList_text (s : Slot) : s.text.toList = s.key.toList ++ Placeholder.argText s.arg := by
  cases s <;> simp [text, key, arg, Placeholder.argText]

/-- The keys of slots are made of lower-case letters. -/
theorem isKeyChar_of_mem {s : Slot} {c : Char} (h : c ∈ s.key.toList) :
    Placeholder.isKeyChar c = true := by
  have hall : s.key.toList.all Placeholder.isKeyChar = true := by
    cases s <;> simp [key, Placeholder.isKeyChar]
  exact List.all_eq_true.mp hall c h

theorem key_ne_nil (s : Slot) : s.key.toList ≠ [] := by
  cases s <;> simp [key]

/-- The argument of a slot can be read. -/
theorem arg_plain (s : Slot) :
    ∀ id ∈ s.arg, id ≠ [] ∧ ∀ c ∈ id, Placeholder.isArgChar c = true := by
  cases s with
  | arn r => exact r.placeable.arg_plain
  | name r => exact r.placeable.arg_plain
  | region => simp [arg]
  | account => simp [arg]
  | stack => simp [arg]

/-- A placeholder for it is understood as such. -/
theorem ofPlaceholder_eq (s : Slot) (source : List Char) (text : String) :
    Hole.ofPlaceholder text ⟨source, s.key.toList, s.arg⟩ = .ok s.hole := by
  cases s with
  | arn id => simp [Hole.ofPlaceholder, key, arg, hole, id.parse_text, Except.map]
  | name id => simp [Hole.ofPlaceholder, key, arg, hole, id.parse_text, Except.map]
  | region => simp [Hole.ofPlaceholder, key, arg, hole]
  | account => simp [Hole.ofPlaceholder, key, arg, hole]
  | stack => simp [Hole.ofPlaceholder, key, arg, hole]

end Slot

/-! ## Parts that are read back -/

namespace Part

/-- The part as it is cut out of the text. -/
def piece : Part → Placeholder.Piece
  | .literal text .. => .gap text.toList
  | .slot before s after => .hole ⟨(slot before s after).text.toList, s.key.toList, s.arg⟩

/-- The piece of a part becomes the segment of the part. -/
theorem ofPiece_piece (p : Part) (text : String) :
    Segment.ofPiece text p.piece = .ok p.segment := by
  cases p with
  | literal t nonempty closed => simp [piece, segment, Segment.ofPiece]
  | slot before s after =>
      simp [piece, segment, Segment.ofPiece, s.ofPlaceholder_eq, Except.map]

/-- The characters of a written placeholder, up to what follows. -/
theorem toList_text_slot (before : Blanks) (s : Slot) (after : Blanks) (rest : List Char) :
    (slot before s after).text.toList ++ rest =
      '{' :: '{' :: (before.chars ++ (s.key.toList ++ (Placeholder.argText s.arg ++
        (after.chars ++ '}' :: '}' :: rest)))) := by
  simp [text, s.toList_text]

/-- **A written placeholder** is read up to its closing braces, whatever follows. -/
theorem read_append (before : Blanks) (s : Slot) (after : Blanks) (rest : List Char) :
    Placeholder.read ((slot before s after).text.toList ++ rest) =
      some (⟨(slot before s after).text.toList, s.key.toList, s.arg⟩, rest) := by
  refine Placeholder.read_eq_some_iff.mpr ⟨?_, rfl⟩
  have hsource := toList_text_slot before s after []
  rw [List.append_nil] at hsource
  rw [hsource]
  exact .intro before.blank s.key_ne_nil (fun c hc => s.isKeyChar_of_mem hc) s.arg_plain after.blank

end Part

end Template

/-! ## Literals -/

namespace Placeholder

/-- What may follow a literal: the end of the text, or a placeholder. -/
def Opens (rest : List Char) : Prop := rest = [] ∨ ∃ cs, rest = '{' :: '{' :: cs

/-- Where a placeholder is read, the gap before it ends. -/
theorem piecesFrom_of_read {seen cs rest : List Char} {p : Placeholder}
    (h : read cs = some (p, rest)) :
    piecesFrom seen cs = gap seen ++ .hole p :: piecesFrom [] rest := by
  cases cs with
  | nil => cases h
  | cons c cs =>
      rw [piecesFrom]
      split
      · next p' rest' hread =>
        rw [h] at hread
        cases hread
        rfl
      · next hread => rw [h] at hread; cases hread

/-- Where none is read, a character is passed over. -/
theorem piecesFrom_of_none {seen cs : List Char} {c : Char} (h : read (c :: cs) = none) :
    piecesFrom seen (c :: cs) = piecesFrom (c :: seen) cs := by
  rw [piecesFrom]
  split
  · next p' rest' hread => rw [h] at hread; cases hread
  · rfl

/-- A third opening brace is no key. -/
theorem read_three_braces (cs : List Char) : read ('{' :: '{' :: '{' :: cs) = none := by
  have hinside : readInside ('{' :: cs) = none := by
    rw [readInside, trimFront_cons rfl]
    rfl
  rw [read, hinside]
  rfl

/-- No placeholder begins in a literal, not even at its last character. -/
theorem read_literal {c : Char} {cs rest : List Char} (hclosed : ¬ ['{', '{'] <:+: c :: cs)
    (hrest : Opens rest) : read (c :: (cs ++ rest)) = none := by
  by_cases hc : c = '{'
  · subst hc
    cases cs with
    | nil =>
        rcases hrest with rfl | ⟨rest, rfl⟩
        · rfl
        · exact read_three_braces rest
    | cons d ds =>
        have hd : d ≠ '{' := by
          rintro rfl
          exact hclosed ⟨[], ds, rfl⟩
        rw [List.cons_append, read]
        simpa using hd
  · unfold read
    split
    · next heq => exact absurd (List.cons.inj heq).1 hc
    · rfl

/-- **A literal** is passed over as a whole. -/
theorem piecesFrom_literal {text rest : List Char} (hclosed : ¬ ['{', '{'] <:+: text)
    (hrest : Opens rest) (seen : List Char) :
    piecesFrom seen (text ++ rest) = piecesFrom (text.reverse ++ seen) rest := by
  induction text generalizing seen with
  | nil => rfl
  | cons c cs ih =>
      have hcs : ¬ ['{', '{'] <:+: cs := fun h => hclosed (h.trans (List.suffix_cons c cs).isInfix)
      rw [List.cons_append, piecesFrom_of_none (read_literal hclosed hrest), ih hcs]
      simp

theorem piecesFrom_nil (seen : List Char) : piecesFrom seen [] = gap seen := by
  rw [piecesFrom]

end Placeholder

/-! ## Whole texts -/

namespace Template

open Placeholder

/-- The characters of parts one after the other. -/
def written (parts : List Part) : List Char := parts.flatMap fun p => p.text.toList

theorem written_cons (p : Part) (parts : List Part) :
    written (p :: parts) = p.text.toList ++ written parts := List.flatMap_cons ..

/-- Parts of which no two literals are neighbours. -/
def Alternating (parts : List Part) : Prop :=
  parts.IsChain fun a b => ¬ (a.isLiteral = true ∧ b.isLiteral = true)

/-- What follows a literal is a placeholder or nothing. -/
theorem opens_written {text : String} {nonempty closed} {parts : List Part}
    (h : Alternating (.literal text nonempty closed :: parts)) : Opens (written parts) := by
  cases parts with
  | nil => exact .inl rfl
  | cons p parts =>
      cases p with
      | literal text' nonempty' closed' => exact absurd ⟨rfl, rfl⟩ (List.isChain_cons_cons.mp h).1
      | slot before s after =>
          rw [written_cons, Part.toList_text_slot]
          exact .inr ⟨_, rfl⟩

/-- What has been passed over is a part of its own where the text ends or a placeholder
begins. -/
theorem piecesFrom_written {text : String} {nonempty closed} {parts : List Part}
    (h : Alternating (.literal text nonempty closed :: parts)) (seen : List Char) :
    piecesFrom seen (written parts) = gap seen ++ piecesFrom [] (written parts) := by
  cases parts with
  | nil => simp [written, piecesFrom_nil, gap]
  | cons p parts =>
      cases p with
      | literal text' nonempty' closed' => exact absurd ⟨rfl, rfl⟩ (List.isChain_cons_cons.mp h).1
      | slot before s after =>
          have hread := Part.read_append before s after (written parts)
          rw [written_cons, piecesFrom_of_read hread, piecesFrom_of_read hread]
          rfl

/-- **Cutting a written text** gives its parts. -/
theorem pieces_written {parts : List Part} (h : Alternating parts) :
    pieces (written parts) = parts.map Part.piece := by
  unfold pieces
  induction parts with
  | nil => exact piecesFrom_nil []
  | cons p parts ih =>
      have hrest := ih h.tail
      cases p with
      | slot before s after =>
          rw [written_cons, piecesFrom_of_read (Part.read_append before s after _), hrest]
          rfl
      | literal text nonempty closed =>
          have hgap : gap (text.toList.reverse ++ []) = [.gap text.toList] := by
            simp [gap, nonempty]
          calc piecesFrom [] (written (.literal text nonempty closed :: parts))
              = piecesFrom [] (text.toList ++ written parts) := by rw [written_cons]; rfl
            _ = piecesFrom (text.toList.reverse ++ []) (written parts) :=
                piecesFrom_literal closed (opens_written h) []
            _ = .gap text.toList :: parts.map Part.piece := by
                rw [piecesFrom_written h, hgap, hrest]
                rfl

/-- The pieces of parts become the segments of the parts. -/
theorem mapM_ofPiece (parts : List Part) (text : String) :
    (parts.map Part.piece).mapM (Segment.ofPiece text) = .ok (parts.map Part.segment) := by
  induction parts with
  | nil => rfl
  | cons p parts ih =>
      rw [List.map_cons, List.mapM_cons, Part.ofPiece_piece, ih]
      rfl

/-- **Reading undoes writing**: the text of parts of which no two literals are neighbours
is a template, and its segments are those parts. -/
theorem parse_written (parts : List Part) (h : Alternating parts) :
    parse (String.join (parts.map Part.text)) =
      .ok ⟨String.join (parts.map Part.text), parts.map Part.segment⟩ := by
  have hchars : (String.join (parts.map Part.text)).toList = written parts := by
    rw [String.toList_join, written, List.flatMap_map]
  rw [parse, hchars, pieces_written h, mapM_ofPiece]
  rfl

/-- Parts that touch on their braces. -/
def touching : List Part :=
  [.literal "a\x7b" (by decide) (by decide),
   .slot ⟨[' '], by simp [Text.isBlank]⟩ .region ⟨[], by simp⟩,
   .slot ⟨[], by simp⟩
     (.name ⟨"x\x7b\x7b:y", by decide, by simp [Text.isBlank], .logicalId "x\x7b\x7b:y", by rfl⟩)
     ⟨['\t'], by simp [Text.isBlank]⟩,
   .literal "\x7db" (by decide) (by decide)]

/-- Braces that touch placeholders, an ID that holds braces, and blanks. -/
theorem parse_touching :
    Alternating touching ∧
      parse "a\x7b\x7b\x7b region\x7d\x7d\x7b\x7bname:x\x7b\x7b:y\t\x7d\x7d\x7db" =
        .ok ⟨"a\x7b\x7b\x7b region\x7d\x7d\x7b\x7bname:x\x7b\x7b:y\t\x7d\x7d\x7db",
          touching.map Part.segment⟩ := by
  have halternating : Alternating touching := by
    unfold Alternating touching
    simp [Part.isLiteral]
  exact ⟨halternating, parse_written touching halternating⟩

end Template

end StackPlaybook
