/-!
# StackPlaybook.Text.Search

Splitting a text at a separator, and searching one text in another.  Everything
is a recursion on the characters; the string versions only unwrap and wrap.
-/

namespace StackPlaybook.Text

/-! ## Splitting at a separator -/

/-- The maximal runs of characters between separators; a text without the
separator is one run, and runs may be empty. -/
def splitAt (sep : Char) : List Char → List (List Char)
  | [] => [[]]
  | c :: cs =>
    if c = sep then [] :: splitAt sep cs
    else match splitAt sep cs with
      | [] => [[c]]
      | run :: runs => (c :: run) :: runs

theorem splitAt_ne_nil (sep : Char) (cs : List Char) : splitAt sep cs ≠ [] := by
  cases cs with
  | nil => simp [splitAt]
  | cons c cs =>
    rw [splitAt]
    split
    · simp
    · split <;> simp

/-- There is one run more than there are separators. -/
theorem length_splitAt (sep : Char) (cs : List Char) :
    (splitAt sep cs).length = cs.count sep + 1 := by
  induction cs with
  | nil => rfl
  | cons c cs ih =>
    rw [splitAt]
    split
    · next h => simp [h, ih]
    · next h =>
      have hne : (c == sep) = false := by simpa using h
      split
      · next hs => exact absurd hs (splitAt_ne_nil sep cs)
      · next run runs hs => simp [List.count_cons, hne, ← ih, hs]

/-- Joining the runs with the separator gives the text back. -/
theorem intercalate_splitAt (sep : Char) (cs : List Char) :
    [sep].intercalate (splitAt sep cs) = cs := by
  induction cs with
  | nil => rfl
  | cons c cs ih =>
    rw [splitAt]
    split
    · next h =>
      cases hs : splitAt sep cs with
      | nil => exact absurd hs (splitAt_ne_nil sep cs)
      | cons run runs =>
        rw [hs] at ih
        subst h
        cases runs <;> simp_all [List.intercalate]
    · split
      · next hs => exact absurd hs (splitAt_ne_nil sep cs)
      · next run runs hs =>
        rw [hs] at ih
        cases runs <;> simp_all [List.intercalate]

/-- No run holds the separator. -/
theorem not_mem_of_mem_splitAt {sep : Char} {cs run : List Char} (h : run ∈ splitAt sep cs) :
    sep ∉ run := by
  induction cs generalizing run with
  | nil => simp [splitAt] at h; simp [h]
  | cons c cs ih =>
    rw [splitAt] at h
    split at h
    · obtain rfl | h := List.mem_cons.1 h
      · simp
      · exact ih h
    · next hc =>
      split at h
      · next hs => exact absurd hs (splitAt_ne_nil sep cs)
      · next first rest hs =>
        obtain rfl | h := List.mem_cons.1 h
        · have : sep ∉ first := ih (by simp [hs])
          simp only [List.mem_cons, not_or]
          exact ⟨fun e => hc e.symm, this⟩
        · exact ih (by simp [hs, h])

/-- A text without the separator is one run. -/
theorem splitAt_of_not_mem {sep : Char} {cs : List Char} (h : sep ∉ cs) : splitAt sep cs = [cs] := by
  induction cs with
  | nil => rfl
  | cons c cs ih =>
    obtain ⟨hc, hcs⟩ := List.ne_and_not_mem_of_not_mem_cons h
    rw [splitAt, if_neg (Ne.symm hc), ih hcs]

/-- Splitting goes on after every separator as from the start. -/
theorem splitAt_append_cons (sep : Char) (xs ys : List Char) :
    splitAt sep (xs ++ sep :: ys) = splitAt sep xs ++ splitAt sep ys := by
  induction xs with
  | nil => simp [splitAt]
  | cons x xs ih =>
    rw [List.cons_append, splitAt, splitAt, ih]
    split
    · rfl
    · cases hs : splitAt sep xs with
      | nil => exact absurd hs (splitAt_ne_nil sep xs)
      | cons run runs => rfl

/-- A run ends at the first separator. -/
theorem splitAt_run {sep : Char} {run : List Char} (h : sep ∉ run) (cs : List Char) :
    splitAt sep (run ++ sep :: cs) = run :: splitAt sep cs := by
  rw [splitAt_append_cons, splitAt_of_not_mem h]
  rfl

/-- Texts with the same runs are the same. -/
theorem splitAt_injective {sep : Char} {xs ys : List Char} (h : splitAt sep xs = splitAt sep ys) :
    xs = ys := by
  rw [← intercalate_splitAt sep xs, h, intercalate_splitAt]

/-- The first run of a text that has a separator, and what follows it. -/
theorem exists_first_run (sep : Char) (cs : List Char) (h : 0 < cs.count sep) :
    ∃ run rest, sep ∉ run ∧ cs = run ++ sep :: rest ∧ cs.count sep = rest.count sep + 1 := by
  obtain ⟨run, rest, rfl, hrun⟩ := List.eq_append_cons_of_mem (List.count_pos_iff.mp h)
  refine ⟨run, rest, hrun, rfl, ?_⟩
  rw [List.count_append, List.count_eq_zero.mpr hrun, Nat.zero_add, List.count_cons_self]

/-- The last run: what follows the last separator, or the whole text. -/
theorem exists_last_run (sep : Char) (cs : List Char) :
    ∃ runs run, splitAt sep cs = runs ++ [run] ∧ sep ∉ run ∧
      (cs = run ∨ ∃ front, cs = front ++ sep :: run) := by
  by_cases hmem : sep ∈ cs
  · obtain ⟨run, rest, hrev, hrun⟩ := List.eq_append_cons_of_mem (List.mem_reverse.mpr hmem)
    have hcs : cs = rest.reverse ++ sep :: run.reverse := by
      rw [← List.reverse_reverse cs, hrev]
      simp
    have hplain : sep ∉ run.reverse := by simpa using hrun
    refine ⟨splitAt sep rest.reverse, run.reverse, ?_, hplain, .inr ⟨rest.reverse, hcs⟩⟩
    rw [hcs, splitAt_append_cons, splitAt_of_not_mem hplain]
  · exact ⟨[], cs, splitAt_of_not_mem hmem, hmem, .inl rfl⟩

/-! ## Searching -/

/-- Whether the needle occurs in the text as a contiguous run. -/
def occursIn (needle : List Char) : List Char → Bool
  | [] => needle.isEmpty
  | c :: cs => needle.isPrefixOf (c :: cs) || occursIn needle cs

/-- Whether `needle` occurs in `text`. -/
def contains (text needle : String) : Bool := occursIn needle.toList text.toList

/-- Searching finds the runs of a text. -/
theorem occursIn_iff {needle cs : List Char} : occursIn needle cs = true ↔ needle <:+: cs := by
  induction cs with
  | nil => simp [occursIn]
  | cons c cs ih => simp [occursIn, List.infix_cons_iff, ih]

/-- A text contains the texts that are runs of its characters. -/
theorem contains_iff {text needle : String} :
    contains text needle = true ↔ needle.toList <:+: text.toList := occursIn_iff

/-- Whether `text` starts with `lead`. -/
def startsWith (text lead : String) : Bool := lead.toList.isPrefixOf text.toList

/-- A text starts as before when it goes on. -/
theorem startsWith_append {text lead : String} (h : startsWith text lead = true) (rest : String) :
    startsWith (text ++ rest) lead = true := by
  rw [startsWith, String.toList_append, List.isPrefixOf_iff_prefix]
  exact (List.isPrefixOf_iff_prefix.mp h).trans (List.prefix_append ..)

/-- The rest of the characters after `lead`, where they start with it. -/
def afterLead : List Char → List Char → Option (List Char)
  | [], cs => some cs
  | _ :: _, [] => none
  | l :: lead, c :: cs => if l = c then afterLead lead cs else none

/-- What is left after a lead completes it to the text. -/
theorem afterLead_eq_some_iff {lead cs rest : List Char} :
    afterLead lead cs = some rest ↔ cs = lead ++ rest := by
  induction lead generalizing cs with
  | nil => simp [afterLead, eq_comm]
  | cons l lead ih =>
    cases cs with
    | nil => simp [afterLead]
    | cons c cs =>
      rw [afterLead]
      split
      · next h => simp [ih, h]
      · next h => simp [Ne.symm h]

/-- The characters before `tail`, where they end with it. -/
def beforeTail (tail cs : List Char) : Option (List Char) :=
  (afterLead tail.reverse cs.reverse).map List.reverse

/-- What is left before a tail completes it to the text. -/
theorem beforeTail_eq_some_iff {tail cs rest : List Char} :
    beforeTail tail cs = some rest ↔ cs = rest ++ tail := by
  simp only [beforeTail, Option.map_eq_some_iff, afterLead_eq_some_iff]
  constructor
  · rintro ⟨r, h, rfl⟩
    have := congrArg List.reverse h
    simpa using this
  · rintro rfl
    exact ⟨rest.reverse, by simp, by simp⟩

/-- The text with every occurrence of `old` (not empty) written as `new`, from the
left; `fuel` bounds the number of steps. -/
def replaceFrom (old new : List Char) : Nat → List Char → List Char
  | 0, cs => cs
  | _ + 1, [] => []
  | fuel + 1, c :: cs =>
    match afterLead old (c :: cs) with
    | some rest => new ++ replaceFrom old new fuel rest
    | none => c :: replaceFrom old new fuel cs

/-- The text with every occurrence of `old` (not empty) written as `new`. -/
def replace (text old new : String) : String :=
  String.ofList (replaceFrom old.toList new.toList text.toList.length text.toList)

end StackPlaybook.Text
