import StackPlaybook.Proofs.Template.Scanning

/-!
# StackPlaybook.Proofs.Template.Substitution

Rendering puts values in the place of the placeholders of a text, in one pass: `replaced` says
how, and what has been put in is not looked at again.

* `Value`, `Missing` — what takes the place of a placeholder in a registry, and why nothing may.
* `render_eq` — rendering looks up the placeholders one after the other and puts in what it finds.
* `substituted_render` — so the output is the text with its placeholders replaced, and the error
  is that of the first of them for which there is nothing.
-/

namespace StackPlaybook

namespace Placeholder

/-! ## Values -/

/-- What takes the place of a placeholder. -/
inductive Value (registry : Registry) (p : Placeholder) : String → Prop where
  | arn {target : Target} {arn : String} (means : Means p (.arn target))
      (resolved : target.arnText registry = .ok arn) : Value registry p arn
  | name {target : Target} {name : String} (means : Means p (.name target))
      (resolved : target.name registry = .ok name) : Value registry p name
  | region (means : Means p .region) : Value registry p registry.region
  | account (means : Means p .account) : Value registry p registry.account
  | stack (means : Means p .stack) : Value registry p registry.stackName

/-- Why there is nothing for a placeholder: no resource has the ID, or its type is one for which
no ARN can be written. -/
inductive Missing (registry : Registry) (p : Placeholder) : Error → Prop where
  | resource {id : String}
      (means : Means p (.arn (.logicalId id)) ∨ Means p (.name (.logicalId id)))
      (absent : registry.lookup id = none) :
      Missing registry p (.resourceNotFound id registry.stackName)
  | arn {id : String} {r : Resource} (means : Means p (.arn (.logicalId id)))
      (found : registry.lookup id = some r) (unshaped : isArnShaped r.physicalId = false)
      (unsupported : serviceHint? r.resourceType = none) :
      Missing registry p (.unsupportedResourceType id r.resourceType)

/-- The target that a placeholder asks for, if any, resolves. -/
def Resolves (registry : Registry) (p : Placeholder) : Prop :=
  (∀ target, Means p (.arn target) → ∃ arn, target.arnText registry = .ok arn) ∧
    ∀ target, Means p (.name target) → ∃ name, target.name registry = .ok name

theorem Means.unique {p : Placeholder} {hole hole' : Hole} (h : Means p hole)
    (h' : Means p hole') : hole = hole' :=
  Except.ok.inj ((ofPlaceholder_of_means h "").symm.trans (ofPlaceholder_of_means h' ""))

section Render

variable {registry : Registry} {p : Placeholder} {hole : Hole} (h : Means p hole)
include h

/-- What is written for a placeholder is the value it asks for. -/
theorem value_of_render {value : String} (hvalue : hole.render registry = .ok value) :
    Value registry p value := by
  cases hole with
  | arn target => exact .arn h hvalue
  | name target => exact .name h hvalue
  | region => exact Except.ok.inj hvalue ▸ .region h
  | account => exact Except.ok.inj hvalue ▸ .account h
  | stack => exact Except.ok.inj hvalue ▸ .stack h

/-- Something is written for a placeholder just if it resolves. -/
theorem resolves_iff : (∃ value, hole.render registry = .ok value) ↔ Resolves registry p := by
  constructor
  · rintro ⟨value, hvalue⟩
    constructor
    · intro target htarget
      obtain rfl := h.unique htarget
      exact ⟨value, hvalue⟩
    · intro target htarget
      obtain rfl := h.unique htarget
      exact ⟨value, hvalue⟩
  · rintro ⟨harn, hname⟩
    cases hole with
    | arn target => exact harn target h
    | name target => exact hname target h
    | region => exact ⟨_, rfl⟩
    | account => exact ⟨_, rfl⟩
    | stack => exact ⟨_, rfl⟩

/-- An error of a placeholder says what is missing for it. -/
theorem missing_of_render {e : Error} (he : hole.render registry = .error e) :
    Missing registry p e := by
  cases hole with
  | arn target =>
      cases target with
      | arn a => cases he
      | logicalId id =>
          obtain hfind | ⟨r, hfound, harn⟩ := bind_eq_error_iff.mp he
          · obtain ⟨habsent, rfl⟩ := Target.find_eq_error_iff.mp hfind
            exact .resource (.inl h) habsent
          · obtain ⟨hshape, hhint, rfl⟩ := Target.arnOf_eq_error_iff.mp harn
            exact .arn h (Target.find_eq_ok_iff.mp hfound) hshape hhint
  | name target =>
      cases target with
      | arn a => cases he
      | logicalId id =>
          obtain ⟨habsent, rfl⟩ := Target.find_eq_error_iff.mp (map_eq_error_iff.mp he)
          exact .resource (.inr h) habsent
  | region => cases he
  | account => cases he
  | stack => cases he

end Render

end Placeholder

/-! ## Replacing -/

namespace Template

open Placeholder

/-- The characters of a text with values in the place of its placeholders. -/
def replaced : List Found → List String → List Char → List Char
  | f :: found, value :: values, tail => f.gap ++ (value.toList ++ replaced found values tail)
  | _, _, tail => tail

/-- The text is what its own placeholders put in their places make. -/
theorem replaced_source {cs tail : List Char} {found : List Found} (h : Finds cs found tail) :
    replaced found (found.map fun f => String.ofList f.placeholder.source) tail = cs := by
  induction h with
  | last free => rfl
  | next spelled leftmost later ih => rw [List.map_cons, replaced, ih, String.toList_ofList]

/-! ## Rendering -/

/-- Rendering goes on after every segment as from the start. -/
theorem render_append (source : String) (xs ys : List Segment) (registry : Registry) :
    (⟨source, xs ++ ys⟩ : Template).render registry =
      ((⟨source, xs⟩ : Template).render registry).bind fun front =>
        ((⟨source, ys⟩ : Template).render registry).map (front ++ ·) := by
  simp only [render, List.mapM_append]
  cases xs.mapM (Segment.render registry) with
  | error e => rfl
  | ok fronts =>
      cases ys.mapM (Segment.render registry) with
      | error e => rfl
      | ok backs => exact congrArg Except.ok (String.join_append ..)

theorem render_run (source : String) (cs : List Char) (registry : Registry) :
    (⟨source, Segment.run cs⟩ : Template).render registry = .ok (String.ofList cs) := by
  cases cs with
  | nil => rfl
  | cons c cs => simp [Segment.run, render, Segment.render]; rfl

/-- A placeholder is written before what follows it, and its error comes first. -/
theorem render_hole (source : String) (hole : Hole) (rest : List Segment) (written : String)
    (registry : Registry) :
    (⟨source, .hole written hole :: rest⟩ : Template).render registry =
      (hole.render registry).bind fun value =>
        ((⟨source, rest⟩ : Template).render registry).map (value ++ ·) := by
  simp only [render, mapM_cons_eq_map, Segment.render]
  cases hole.render registry with
  | error e => rfl
  | ok value =>
      cases rest.mapM (Segment.render registry) with
      | error e => rfl
      | ok values => exact congrArg Except.ok (String.join_cons ..)

/-- What rendering makes of a placeholder of a text. -/
def valueIn (registry : Registry) (text : String) (p : Placeholder) : Except Error String :=
  (Hole.ofPlaceholder text p).bind (·.render registry)

theorem valueIn_of_means {p : Placeholder} {hole : Hole} (h : Means p hole) (registry : Registry)
    (text : String) : valueIn registry text p = hole.render registry := by
  rw [valueIn, ofPlaceholder_of_means h]
  rfl

/-- A template is written with the value of each placeholder in its place. -/
theorem render_segmentsOf {found : List Found} {holes : List Hole}
    (h : List.Forall₂ (fun f hole => Means f.placeholder hole) found holes) (tail : List Char)
    (registry : Registry) (text : String) :
    (⟨text, segmentsOf found holes tail⟩ : Template).render registry =
      (found.mapM fun f => valueIn registry text f.placeholder).map fun values =>
        String.ofList (replaced found values tail) := by
  induction h with
  | nil => exact render_run text tail registry
  | @cons f hole found holes hmeans _ ih =>
      rw [segmentsOf, render_append, render_run, render_hole, mapM_cons_eq_map,
        valueIn_of_means hmeans, ih]
      cases hole.render registry with
      | error e => rfl
      | ok value =>
          cases found.mapM fun f => valueIn registry text f.placeholder with
          | error e => rfl
          | ok values =>
              refine congrArg Except.ok ?_
              simp [replaced]

/-- **Rendering** looks up the placeholders of the text, one after the other. -/
theorem render_eq {text : String} {t : Template} {found : List Found} {tail : List Char}
    (hfinds : Finds text.toList found tail) (hparse : parse text = .ok t) (registry : Registry) :
    t.render registry = (found.mapM fun f => valueIn registry text f.placeholder).map fun values =>
      String.ofList (replaced found values tail) := by
  obtain ⟨holes, hholes, rfl⟩ := exists_of_parse hfinds hparse
  exact render_segmentsOf hholes tail registry text

/-- What rendering does to a text with these placeholders. -/
structure Substituted (registry : Registry) (found : List Found) (tail : List Char)
    (result : Except Error String) : Prop where
  ok_iff : (∃ out, result = .ok out) ↔ ∀ f ∈ found, Resolves registry f.placeholder
  /-- Every placeholder is replaced by its value, and every other character is kept. -/
  output : ∀ out, result = .ok out →
    ∃ values, List.Forall₂ (fun f value => Value registry f.placeholder value) found values ∧
      out.toList = replaced found values tail
  /-- The error is that of the first placeholder that does not resolve. -/
  leftmost : ∀ e, result = .error e → ∃ before f after, found = before ++ f :: after ∧
    (∀ g ∈ before, Resolves registry g.placeholder) ∧ Missing registry f.placeholder e

/-- An accepted template is rendered by substitution. -/
theorem substituted_of_parse {text : String} {t : Template} {found : List Found} {tail : List Char}
    (hfinds : Finds text.toList found tail) (hparse : parse text = .ok t) (registry : Registry) :
    Substituted registry found tail (t.render registry) := by
  have hmeans : ∀ f ∈ found, ∃ hole, Means f.placeholder hole := by
    have hread := parse_eq hfinds ▸ hparse
    obtain ⟨holes, hholes, -⟩ := exists_of_map_eq_ok hread
    intro f hf
    obtain ⟨hole, hhole⟩ := exists_mapM_eq_ok_iff.mp ⟨holes, hholes⟩ f hf
    exact ⟨hole, ofPlaceholder_eq_ok_iff.mp hhole⟩
  have hresolves : ∀ f ∈ found, (∃ value, valueIn registry text f.placeholder = .ok value) ↔
      Resolves registry f.placeholder := by
    intro f hf
    obtain ⟨hole, hhole⟩ := hmeans f hf
    rw [valueIn_of_means hhole, resolves_iff hhole]
  rw [render_eq hfinds hparse]
  constructor
  case ok_iff =>
    rw [exists_map_eq_ok_iff, exists_mapM_eq_ok_iff]
    exact forall₂_congr hresolves
  case output =>
    intro out hout
    obtain ⟨values, hvalues, rfl⟩ := exists_of_map_eq_ok hout
    refine ⟨values, (mapM_eq_ok_iff.mp hvalues).imp fun f value hvalue => ?_,
      String.toList_ofList⟩
    obtain ⟨hole, hhole, hrender⟩ := exists_of_bind_eq_ok hvalue
    exact value_of_render (ofPlaceholder_eq_ok_iff.mp hhole) hrender
  case leftmost =>
    intro e he
    obtain ⟨before, f, after, rfl, hbefore, hf⟩ := mapM_eq_error_iff.mp (map_eq_error_iff.mp he)
    refine ⟨before, f, after, rfl, fun g hg => ?_, ?_⟩
    · exact (hresolves g (List.mem_append_left _ hg)).mp (hbefore g hg)
    · obtain ⟨hole, hhole⟩ := hmeans f (by simp)
      rw [valueIn_of_means hhole] at hf
      exact missing_of_render hhole hf

/-- **Rendering is substitution in one pass.**  Take the placeholders that are found in the text
of a template.  In any registry it is rendered just if all of them resolve, to the text with
every one of them replaced by its value and nothing else changed; values are put in as they are,
even where they look like placeholders themselves.  Otherwise the error is that of the first
placeholder that does not resolve.  If the template asks for ARNs only, it is always rendered. -/
theorem substituted_render {text : String} {t : Template} (h : parse text = .ok t) :
    ∃ found tail, Finds text.toList found tail ∧
      replaced found (found.map fun f => String.ofList f.placeholder.source) tail = text.toList ∧
      (∀ registry, Substituted registry found tail (t.render registry)) ∧
      ((∀ f ∈ found, ∀ target, Means f.placeholder (.arn target) ∨
          Means f.placeholder (.name target) → ∃ a, target = .arn a) →
        ∀ registry, ∃ out, t.render registry = .ok out) := by
  obtain ⟨found, tail, hfinds, -⟩ := exists_finds text.toList
  refine ⟨found, tail, hfinds, replaced_source hfinds, substituted_of_parse hfinds h, ?_⟩
  intro harns registry
  refine (substituted_of_parse hfinds h registry).ok_iff.mpr fun f hf => ⟨?_, ?_⟩
  · intro target htarget
    obtain ⟨a, rfl⟩ := harns f hf target (.inl htarget)
    exact ⟨a.text, Target.arnText_arn registry a⟩
  · intro target htarget
    obtain ⟨a, rfl⟩ := harns f hf target (.inr htarget)
    exact ⟨a.resourceName, Target.name_arn registry a⟩

/-- A template that asks for the stack and for its region. -/
def whereabouts : Template :=
  ⟨"\x7b\x7bstack\x7d\x7d in \x7b\x7bregion\x7d\x7d", [.hole "\x7b\x7bstack\x7d\x7d" .stack, .literal " in ",
    .hole "\x7b\x7bregion\x7d\x7d" .region]⟩

/-- The name of the stack is put in as it is, though it looks like a placeholder. -/
theorem substituted_render_whereabouts :
    parse whereabouts.source = .ok whereabouts ∧
      whereabouts.render (.empty "\x7b\x7bregion\x7d\x7d" "r" "1") = .ok "\x7b\x7bregion\x7d\x7d in r" ∧
      ∃ found tail, Finds whereabouts.source.toList found tail ∧
        replaced found (found.map fun f => String.ofList f.placeholder.source) tail =
          whereabouts.source.toList ∧
        (∀ registry, Substituted registry found tail (whereabouts.render registry)) ∧
        ((∀ f ∈ found, ∀ target, Means f.placeholder (.arn target) ∨
            Means f.placeholder (.name target) → ∃ a, target = .arn a) →
          ∀ registry, ∃ out, whereabouts.render registry = .ok out) := by
  have hparse : parse whereabouts.source = .ok whereabouts := by decide +kernel
  exact ⟨hparse, rfl, substituted_render hparse⟩

end Template

end StackPlaybook
