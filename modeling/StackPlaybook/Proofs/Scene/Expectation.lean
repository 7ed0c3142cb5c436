import StackPlaybook.Scene.Command

/-!
# StackPlaybook.Proofs.Scene.Expectation

What is expected of a command.  `Expectation.Matches` says when all of it is met, and
`Expectation.Unmet` which part is the first that is not, with the words for it; a check tells
the two apart (`check_eq_ok_iff`, `unmet_of_check`).
-/

namespace StackPlaybook.Scene.Expectation

/-- A command that did all that is expected of it.  What it wrote to its error output does not
count. -/
structure Matches (expect : Expectation) (ran : Ran) : Prop where
  success : ran.success = expect.success.getD true
  contains : ∀ needle, expect.outputContains = some needle → needle.toList <:+: ran.stdout.toList
  equals : ∀ expected, expect.outputEquals = some expected →
    Text.trim ran.stdout = Text.trim expected

/-- A command that did not: the first expectation that it does not meet. -/
inductive Unmet (expect : Expectation) (ran : Ran) : Error → Prop
  | success (success : ran.success ≠ expect.success.getD true) :
      Unmet expect ran (.assertion ("expected success=" ++
        (if expect.success.getD true then "true" else "false") ++ ", got exit code " ++
          exitText ran.code))
  | contains {needle : String} (success : ran.success = expect.success.getD true)
      (asked : expect.outputContains = some needle)
      (contains : ¬ needle.toList <:+: ran.stdout.toList) :
      Unmet expect ran (.assertion ("output does not contain '" ++ needle ++ "'"))
  | equals {expected : String} (success : ran.success = expect.success.getD true)
      (contains : ∀ needle, expect.outputContains = some needle →
        needle.toList <:+: ran.stdout.toList)
      (asked : expect.outputEquals = some expected)
      (equals : Text.trim ran.stdout ≠ Text.trim expected) :
      Unmet expect ran (.assertion ("expected output '" ++ Text.trim expected ++ "', got '" ++
        Text.trim ran.stdout ++ "'"))

variable {expect : Expectation} {ran : Ran} {e : Error}

/-- What is expected next time is no reason to give up. -/
theorem Unmet.not_fatal (h : expect.Unmet ran e) : e.isFatal = false := by
  cases h <;> rfl

theorem Unmet.not_matches (h : expect.Unmet ran e) : ¬ expect.Matches ran := by
  intro hmatches
  cases h with
  | success success => exact success hmatches.success
  | contains _ asked contains => exact contains (hmatches.contains _ asked)
  | equals _ _ asked equals => exact equals (hmatches.equals _ asked)

/-! ## Checks -/

/-- The check for success passes, or finds that it is not what was expected. -/
theorem checkSuccess_cases (expect : Expectation) (ran : Ran) :
    (expect.checkSuccess ran = .ok () ∧ ran.success = expect.success.getD true) ∨
      ∃ e, expect.checkSuccess ran = .error e ∧ expect.Unmet ran e := by
  unfold checkSuccess
  by_cases hsuccess : ran.success = expect.success.getD true
  · exact .inl ⟨if_pos hsuccess, hsuccess⟩
  · exact .inr ⟨_, if_neg hsuccess, .success hsuccess⟩

/-- The output contains the text that was asked for, if one was, or it is found not to. -/
theorem checkContains_cases (hsuccess : ran.success = expect.success.getD true) :
    (expect.checkContains ran = .ok () ∧
      ∀ needle, expect.outputContains = some needle → needle.toList <:+: ran.stdout.toList) ∨
      ∃ e, expect.checkContains ran = .error e ∧ expect.Unmet ran e := by
  unfold checkContains
  cases hasked : expect.outputContains with
  | none => exact .inl ⟨rfl, nofun⟩
  | some needle =>
      by_cases hcontains : Text.contains ran.stdout needle = true
      · refine .inl ⟨if_pos hcontains, fun needle' heq => ?_⟩
        obtain rfl := Option.some.inj heq
        exact Text.contains_iff.mp hcontains
      · exact .inr ⟨_, if_neg hcontains, .contains hsuccess hasked fun h =>
          hcontains (Text.contains_iff.mpr h)⟩

/-- The output equals the text that was asked for, if one was, or it is found not to. Blanks
around either make no difference. -/
theorem checkEquals_cases (hsuccess : ran.success = expect.success.getD true)
    (hcontains : ∀ needle, expect.outputContains = some needle →
      needle.toList <:+: ran.stdout.toList) :
    (expect.checkEquals ran = .ok () ∧
      ∀ expected, expect.outputEquals = some expected →
        Text.trim ran.stdout = Text.trim expected) ∨
      ∃ e, expect.checkEquals ran = .error e ∧ expect.Unmet ran e := by
  unfold checkEquals
  cases hasked : expect.outputEquals with
  | none => exact .inl ⟨rfl, nofun⟩
  | some expected =>
      by_cases hequals : Text.trim ran.stdout = Text.trim expected
      · refine .inl ⟨if_pos hequals, fun expected' heq => ?_⟩
        obtain rfl := Option.some.inj heq
        exact hequals
      · exact .inr ⟨_, if_neg hequals, .equals hsuccess hcontains hasked hequals⟩

/-- A check passes what matches, and otherwise gives the first expectation that is not met. -/
theorem check_cases (expect : Expectation) (ran : Ran) :
    (expect.check ran = .ok () ∧ expect.Matches ran) ∨
      ∃ e, expect.check ran = .error e ∧ expect.Unmet ran e := by
  have hcheck : expect.check ran = (expect.checkSuccess ran).bind fun _ =>
      (expect.checkContains ran).bind fun _ => expect.checkEquals ran := rfl
  rw [hcheck]
  obtain ⟨hok, hsuccess⟩ | ⟨e, herror, hunmet⟩ := checkSuccess_cases expect ran
  case inr => exact .inr ⟨e, by rw [herror]; rfl, hunmet⟩
  rw [hok, Except.bind]
  obtain ⟨hok, hcontains⟩ | ⟨e, herror, hunmet⟩ := checkContains_cases hsuccess
  case inr => exact .inr ⟨e, by rw [herror]; rfl, hunmet⟩
  rw [hok, Except.bind]
  obtain ⟨hok, hequals⟩ | ⟨e, herror, hunmet⟩ := checkEquals_cases hsuccess hcontains
  case inr => exact .inr ⟨e, herror, hunmet⟩
  exact .inl ⟨hok, hsuccess, hcontains, hequals⟩

/-- A check passes **just what matches**. -/
theorem check_eq_ok_iff : expect.check ran = .ok () ↔ expect.Matches ran := by
  obtain ⟨hok, hmatches⟩ | ⟨e, herror, hunmet⟩ := check_cases expect ran
  · exact iff_of_true hok hmatches
  · rw [herror]
    exact iff_of_false nofun hunmet.not_matches

theorem unmet_of_check (h : expect.check ran = .error e) : expect.Unmet ran e := by
  obtain ⟨hok, -⟩ | ⟨e', herror, hunmet⟩ := check_cases expect ran
  · rw [hok] at h
    cases h
  · obtain rfl := Except.error.inj (herror.symm.trans h)
    exact hunmet

end StackPlaybook.Scene.Expectation
