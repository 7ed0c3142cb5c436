import StackPlaybook.Proofs.Stack.ReadBack

/-!
# StackPlaybook.Proofs.Stack.Segments

A text that is an ARN, taken apart at its colons.

* `Parts` — five parts without colons and the resource, which may hold two;
* `exists_parts`, `Parts.text_injective` — an ARN is the text of such parts in one way only;
* `named_resourceName` — its resource is named by the last segment, or by what follows the only
  slash of that;
* `dissected_parse` — and just the texts with five to seven colons are ARNs.
-/

namespace StackPlaybook

namespace Arn

/-! ## Parts -/

/-- The parts of an ARN. -/
@[ext]
structure Parts where
  scheme : String
  partition : String
  service : String
  region : String
  account : String
  resource : String

namespace Parts

variable {p q : Parts}

/-- The parts with a colon between each two. -/
def text (p : Parts) : String :=
  p.scheme ++ ":" ++ p.partition ++ ":" ++ p.service ++ ":" ++ p.region ++ ":" ++ p.account ++
    ":" ++ p.resource

/-- Of the parts, only the resource holds colons, and it holds two at most. -/
structure Plain (p : Parts) : Prop where
  scheme : ':' ∉ p.scheme.toList
  partition : ':' ∉ p.partition.toList
  service : ':' ∉ p.service.toList
  region : ':' ∉ p.region.toList
  account : ':' ∉ p.account.toList
  resource : p.resource.toList.count ':' ≤ 2

theorem toList_text (p : Parts) : p.text.toList =
    p.scheme.toList ++ ':' :: (p.partition.toList ++ ':' :: (p.service.toList ++ ':' ::
      (p.region.toList ++ ':' :: (p.account.toList ++ ':' :: p.resource.toList)))) := by
  simp [text]

/-- The segments of the text: the first five parts, and those of the resource. -/
theorem splitAt_text (h : p.Plain) : Text.splitAt ':' p.text.toList =
    [p.scheme.toList, p.partition.toList, p.service.toList, p.region.toList, p.account.toList] ++
      Text.splitAt ':' p.resource.toList := by
  rw [toList_text, ServiceHint.splitAt_five h.scheme h.partition h.service h.region h.account]

/-- **A text has parts in one way only.** -/
theorem text_injective (hp : p.Plain) (hq : q.Plain) (h : p.text = q.text) : p = q := by
  have hsplit : Text.splitAt ':' p.text.toList = Text.splitAt ':' q.text.toList := by rw [h]
  rw [splitAt_text hp, splitAt_text hq] at hsplit
  obtain ⟨hparts, hresource⟩ := List.append_inj hsplit rfl
  simp only [List.cons.injEq, String.toList_inj] at hparts
  ext1
  case resource => exact String.toList_inj.mp (Text.splitAt_injective hresource)
  all_goals simp only [hparts]

end Parts

/-- A text with five to seven colons has parts. -/
theorem exists_parts {s : String} (h : 5 ≤ s.toList.count ':' ∧ s.toList.count ':' ≤ 7) :
    ∃ p : Parts, p.Plain ∧ p.text = s := by
  obtain ⟨scheme, s₁, hscheme, hs, h₁⟩ := Text.exists_first_run ':' s.toList (by omega)
  obtain ⟨partition, s₂, hpartition, rfl, h₂⟩ := Text.exists_first_run ':' s₁ (by omega)
  obtain ⟨service, s₃, hservice, rfl, h₃⟩ := Text.exists_first_run ':' s₂ (by omega)
  obtain ⟨region, s₄, hregion, rfl, h₄⟩ := Text.exists_first_run ':' s₃ (by omega)
  obtain ⟨account, rest, haccount, rfl, h₅⟩ := Text.exists_first_run ':' s₄ (by omega)
  let p : Parts := ⟨.ofList scheme, .ofList partition, .ofList service, .ofList region,
    .ofList account, .ofList rest⟩
  have hresource : rest.count ':' ≤ 2 := by omega
  refine ⟨p, by constructor <;> simpa [p], ?_⟩
  rw [← String.toList_inj, p.toList_text, hs]
  simp [p]

/-- The segments that are read by their index are the parts. -/
theorem segment_of_parts {a : Arn} {p : Parts} (hp : p.Plain) (h : p.text = a.text) :
    a.service = p.service ∧ a.region = p.region ∧ a.account = p.account := by
  simp [service, region, account, segment, segments, ← h, Parts.splitAt_text hp]

/-! ## Names -/

/-- The last segment of a text: what follows its last colon, or all of it. -/
structure EndsIn (text segment : String) : Prop where
  plain : ':' ∉ segment.toList
  written : text = segment ∨ ∃ front, text = front ++ ":" ++ segment

/-- What a segment names: what follows its slash if it has one only, and otherwise itself. -/
inductive Names : String → String → Prop
  | afterSlash {kind name : String} (flat : '/' ∉ kind.toList) (plain : '/' ∉ name.toList) :
      Names (kind ++ "/" ++ name) name
  | whole {segment : String} (slashes : segment.toList.count '/' ≠ 1) : Names segment segment

theorem EndsIn.suffix {text segment : String} (h : EndsIn text segment) :
    segment.toList <:+ text.toList := by
  obtain rfl | ⟨front, rfl⟩ := h.written
  · exact List.suffix_rfl
  · simp only [String.toList_append]
    exact List.suffix_append ..

theorem Names.suffix {segment name : String} (h : Names segment name) :
    name.toList <:+ segment.toList := by
  cases h with
  | afterSlash =>
      simp only [String.toList_append]
      exact List.suffix_append ..
  | whole => exact List.suffix_rfl

/-- A segment without a slash, or with more than one, is left as it is. -/
theorem afterOnlySlash_of_count {segment : List Char} (h : segment.count '/' ≠ 1) :
    afterOnlySlash segment = segment := by
  have hlength := Text.length_splitAt '/' segment
  unfold afterOnlySlash
  split
  · next hsplit =>
    rw [hsplit, List.length_cons, List.length_singleton] at hlength
    omega
  · rfl

/-- What is read of a segment is what it names. -/
theorem names_afterOnlySlash (segment : String) :
    Names segment (String.ofList (afterOnlySlash segment.toList)) := by
  by_cases h : segment.toList.count '/' = 1
  · obtain ⟨kind, name, hkind, hsegment, hcount⟩ :=
      Text.exists_first_run '/' segment.toList (by omega)
    have hname : '/' ∉ name := List.count_eq_zero.mp (by omega)
    have hwritten : segment = String.ofList kind ++ "/" ++ String.ofList name := by
      rw [← String.toList_inj, hsegment]
      simp
    rw [hsegment, afterOnlySlash_append hkind hname, hwritten]
    exact .afterSlash (by simpa) (by simpa)
  · rw [afterOnlySlash_of_count h, String.ofList_toList]
    exact .whole h

/-- **The name of the resource** is what the last segment names, and that is the end of the
resource. -/
theorem named_resourceName {a : Arn} {p : Parts} (hp : p.Plain) (h : p.text = a.text) :
    ∃ segment, EndsIn p.resource segment ∧ Names segment a.resourceName := by
  obtain ⟨runs, run, hruns, hplain, hends⟩ := Text.exists_last_run ':' p.resource.toList
  have hlast : (Text.splitAt ':' a.text.toList).getLastD [] = run := by
    rw [← h, Parts.splitAt_text hp, hruns, ← List.append_assoc]
    exact List.getLastD_concat
  refine ⟨String.ofList run, ⟨by simpa, ?_⟩, ?_⟩
  · obtain hall | ⟨front, hfront⟩ := hends
    · exact .inl (by rw [← hall, String.ofList_toList])
    · refine .inr ⟨String.ofList front, ?_⟩
      rw [← String.toList_inj, hfront]
      simp
  · rw [resourceName, hlast]
    simpa using names_afterOnlySlash (String.ofList run)

/-! ## Reading -/

/-- An ARN in its parts. -/
structure Dissected (a : Arn) (p : Parts) : Prop where
  plain : p.Plain
  text : p.text = a.text
  unique : ∀ q : Parts, q.Plain → q.text = a.text → q = p
  service : a.service = p.service
  region : a.region = p.region
  account : a.account = p.account
  name : ∃ segment, EndsIn p.resource segment ∧ Names segment a.resourceName
  name_plain : ':' ∉ a.resourceName.toList
  name_suffix : a.resourceName.toList <:+ p.resource.toList

/-- Every ARN can be taken apart. -/
theorem exists_dissected (a : Arn) : ∃ p, Dissected a p := by
  have hsix := a.six_le
  have hmost := a.le_eight
  rw [colonSegments_eq] at hsix hmost
  obtain ⟨p, hp, htext⟩ := exists_parts (s := a.text) ⟨by omega, by omega⟩
  obtain ⟨hservice, hregion, haccount⟩ := segment_of_parts hp htext
  obtain ⟨segment, hends, hnames⟩ := named_resourceName hp htext
  exact ⟨p,
    { plain := hp
      text := htext
      unique := fun q hq h => Parts.text_injective hq hp (h.trans htext.symm)
      service := hservice
      region := hregion
      account := haccount
      name := ⟨segment, hends, hnames⟩
      name_plain := fun h => hends.plain (hnames.suffix.subset h)
      name_suffix := hnames.suffix.trans hends.suffix }⟩

/-- What reading a text as an ARN comes to. -/
inductive Reading (s : String) : Except Error Arn → Prop
  | refused (colons : ¬ (5 ≤ s.toList.count ':' ∧ s.toList.count ':' ≤ 7)) :
      Reading s (.error (.invalidArn s (s.toList.count ':' + 1)))
  | accepted {a : Arn} {p : Parts} (colons : 5 ≤ s.toList.count ':' ∧ s.toList.count ':' ≤ 7)
      (text : a.text = s) (dissected : Dissected a p) : Reading s (.ok a)

/-- **Any text, read as an ARN**: it is one just if it has five to seven colons, and then it is
its own text, in parts that are its service, its region and its account, and a resource that ends
in its name. -/
theorem dissected_parse (s : String) : Reading s (parse s) := by
  by_cases hcolons : 5 ≤ s.toList.count ':' ∧ s.toList.count ':' ≤ 7
  · obtain ⟨a, ha⟩ := exists_parse_iff.mpr
      (show 6 ≤ colonSegments s ∧ colonSegments s ≤ 8 by rw [colonSegments_eq]; omega)
    obtain ⟨p, hp⟩ := exists_dissected a
    rw [ha]
    exact .accepted hcolons (text_of_parse ha) hp
  · rw [parse, dif_neg (by rw [colonSegments_eq]; omega), colonSegments_eq]
    exact .refused hcolons

-- empty parts, and a resource whose last segment has two slashes
example : (parse "a::s::1:x/y:b/c/d").toOption.map (fun a =>
    (a.service, a.region, a.account, a.resourceName)) = some ("s", "", "1", "b/c/d") := by decide

end Arn

end StackPlaybook
