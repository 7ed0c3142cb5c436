import StackPlaybook.Proofs.Stack.ReadBack
import StackPlaybook.Proofs.Traversal

/-!
# StackPlaybook.Proofs.Stack.Retarget

The ARN of a resource as a target of its own, whatever the physical ID of the resource is.

* `standsAlone_iff` — a text is such a target just if it starts with `arn:` and has six to eight
  segments;
* `colonSegments_synthesize` — a written ARN has six segments, and one more for each colon in
  the lead of its type and in the name of the resource;
* `arn_of_any_physicalId` — so a physical ID with six segments, which is passed on, need only
  start with `arn:`, and any other must not bring in too many colons.
-/

namespace StackPlaybook

/-! ## Segments of a written ARN -/

namespace ServiceHint

variable {hint : ServiceHint} {region account physicalId : String}

/-- The colons that the last part of a written ARN has of its own. -/
def innerColons (hint : ServiceHint) (physicalId : String) : Nat :=
  hint.lead.toList.count ':' + (resourceOf physicalId).toList.count ':'

/-- A written ARN starts like one. -/
theorem startsWith_synthesize :
    Text.startsWith (hint.synthesize region account physicalId) "arn:" = true := by
  -- Generalised as in `splitAt_synthesize`, so that no literal is taken apart.
  have hlead : ∀ opening colon : String, Text.startsWith opening "arn:" = true →
      Text.startsWith (opening ++ hint.service ++ colon ++ region ++ colon ++ account ++ colon ++
        hint.lead ++ resourceOf physicalId) "arn:" = true := by
    intro opening colon hopening
    simp only [String.append_assoc]
    exact Text.startsWith_append hopening _
  exact hlead "arn:aws:" ":" (by decide)

/-- A written ARN has **six segments**, and one more for each colon that its last part brings in. -/
theorem colonSegments_synthesize (hhint : hint.Legible) (hregion : ':' ∉ region.toList)
    (haccount : ':' ∉ account.toList) :
    colonSegments (hint.synthesize region account physicalId) =
      6 + hint.innerColons physicalId := by
  rw [colonSegments, splitAt_synthesize hhint hregion haccount, List.length_append,
    Text.length_splitAt, List.count_append, innerColons]
  simp only [List.length_cons, List.length_nil]
  omega

end ServiceHint

namespace Target

/-! ## Texts as targets -/

/-- A text that is an ARN target, and the ARN of that target in every registry. -/
structure StandsAlone (text : String) : Prop where
  lead : Text.startsWith text "arn:" = true
  arn : ∃ a, Arn.parse text = .ok a ∧ parse text = .ok (.arn a) ∧
    ∀ registry, (Target.arn a).arnText registry = .ok text

/-- A text is a target of its own just if it starts like an ARN and has six to eight segments. -/
theorem standsAlone_iff {text : String} :
    StandsAlone text ↔
      Text.startsWith text "arn:" = true ∧ 6 ≤ colonSegments text ∧ colonSegments text ≤ 8 := by
  rw [← Arn.exists_parse_iff]
  constructor
  · rintro ⟨hlead, a, hparse, -⟩
    exact ⟨hlead, a, hparse⟩
  · rintro ⟨hlead, a, hparse⟩
    refine ⟨hlead, a, hparse, ?_, fun registry => ?_⟩
    · rw [parse, if_pos hlead, ofArn, hparse]
      rfl
    · rw [arnText_arn, Arn.text_of_parse hparse]

/-! ## ARNs of resources -/

variable {registry : Registry} {id : String} {r : Resource}

/-- A physical ID with six segments is passed on, whatever they are. -/
structure PassedOn (r : Resource) (arn : String) : Prop where
  shape : r.physicalId.toList.count ':' = 5
  same : arn = r.physicalId
  reads : ∃ a, Arn.parse arn = .ok a
  standsAlone : StandsAlone arn ↔ Text.startsWith r.physicalId "arn:" = true

/-- For any other an ARN is written, whose last part has at most three segments if it can be
read. -/
structure Written (registry : Registry) (r : Resource) (arn : String) : Prop where
  shape : r.physicalId.toList.count ':' ≠ 5
  lead : Text.startsWith arn "arn:" = true
  hint : ∃ hint, serviceHint? r.resourceType = some hint ∧
    arn = hint.synthesize registry.region registry.account r.physicalId ∧
    (StandsAlone arn ↔ hint.innerColons r.physicalId ≤ 2)

theorem passedOn_of_shape (h : r.physicalId.toList.count ':' = 5) : PassedOn r r.physicalId := by
  have hsix : colonSegments r.physicalId = 6 := by rw [colonSegments_eq, h]
  refine ⟨h, rfl, Arn.exists_parse_iff.mpr (by omega), ?_⟩
  rw [standsAlone_iff, hsix]
  simp

/-- For any other physical ID of a supported type an ARN is written. -/
theorem written_of_hint {hint : ServiceHint} (hshape : r.physicalId.toList.count ':' ≠ 5)
    (hhint : serviceHint? r.resourceType = some hint) (hregion : ':' ∉ registry.region.toList)
    (haccount : ':' ∉ registry.account.toList) :
    Written registry r (hint.synthesize registry.region registry.account r.physicalId) := by
  refine ⟨hshape, ServiceHint.startsWith_synthesize, hint, hhint, rfl, ?_⟩
  rw [standsAlone_iff, ServiceHint.colonSegments_synthesize
    (ServiceHint.legible_of_serviceHint? hhint) hregion haccount]
  constructor
  · rintro ⟨-, -, hle⟩
    omega
  · intro hle
    exact ⟨ServiceHint.startsWith_synthesize, by omega, by omega⟩

/-- The ARN of a resource is passed on or written. -/
theorem passedOn_or_written {arn : String} (hregion : ':' ∉ registry.region.toList)
    (haccount : ':' ∉ registry.account.toList)
    (h : (logicalId id).arnText registry = .ok arn) :
    ∃ r, registry.lookup id = some r ∧ (PassedOn r arn ∨ Written registry r arn) := by
  obtain ⟨r, hfind, hof⟩ := exists_of_bind_eq_ok h
  refine ⟨r, find_eq_ok_iff.mp hfind, ?_⟩
  unfold arnOf at hof
  split at hof
  · next hshape =>
    cases hof
    exact .inl (passedOn_of_shape (isArnShaped_iff.mp hshape))
  · next hshape =>
    split at hof
    · next hint hhint =>
      cases hof
      exact .inr (written_of_hint (fun hcount => hshape (isArnShaped_iff.mpr hcount)) hhint hregion
        haccount)
    · cases hof

end Target

/-! ## Registries of descriptions -/

namespace Registry

variable {stack region : String} {d : StackDescription} {built : Registry}

/-- **The ARN of a resource**, whatever its physical ID is, with a manifest or without one.  A
physical ID with six segments is passed on, so it can be read, and stands alone if it starts with
`arn:`.  Any other ARN is written, so it starts with `arn:`, and can be read if the name does not
bring in too many colons. -/
theorem arn_of_any_physicalId (hbuilt : ofDescription stack region d = .ok built)
    (hregion : ':' ∉ region.toList) (manifest : Option Manifest) {id arn : String}
    (h : (Target.logicalId id).arnText (manifest.elim built built.withManifest) = .ok arn) :
    let registry := manifest.elim built built.withManifest
    ∃ r, registry.lookup id = some r ∧
      (Target.PassedOn r arn ∨ Target.Written registry r arn) := by
  intro registry
  obtain ⟨hbuiltRegion, haccount⟩ := colon_not_mem_account hbuilt
  have hsame : registry.region = region ∧ registry.account = built.account := by
    cases manifest <;> exact ⟨hbuiltRegion, rfl⟩
  refine Target.passedOn_or_written ?_ ?_ h
  · rwa [hsame.1]
  · rwa [hsame.2]

/-! ### Functions -/

/-- A stack with two functions and a topic.  The first function is named with its version, the
second by its ARN, which has seven segments. -/
def ordersStack : StackDescription :=
  ⟨"arn:aws:cloudformation:r:1:stack/orders/x",
    [⟨"Live", "orders:live", "AWS::Lambda::Function"⟩,
      ⟨"Handler", "arn:aws:lambda:r:1:function:orders", "AWS::Lambda::Function"⟩,
      ⟨"Events", "a:b:c:d:e:f", "AWS::SNS::Topic"⟩]⟩

/-- The registry of the stack. -/
def ordersLoaded : Registry :=
  ⟨"orders", "r", "1", .ofList (ordersStack.resources.map fun r => (r.logicalId, r)), none⟩

theorem ofDescription_ordersStack : ofDescription "orders" "r" ordersStack = .ok ordersLoaded := by
  let stackArn : Arn := ⟨ordersStack.stackId, by decide, by decide⟩
  have haccount : stackArn.account = "1" := by decide
  have hparse : Arn.parse ordersStack.stackId = .ok stackArn := Arn.parse_text stackArn
  rw [ofDescription, hparse, ordersLoaded, ← haccount]
  rfl

/-- A version is the most that fits. -/
theorem arn_of_version :
    ofDescription "orders" "r" ordersStack = .ok ordersLoaded ∧ ':' ∉ "r".toList ∧
      (Target.logicalId "Live").arnText ordersLoaded =
        .ok "arn:aws:lambda:r:1:function:orders:live" ∧
      ∃ r, ordersLoaded.lookup "Live" = some r ∧
        (Target.PassedOn r "arn:aws:lambda:r:1:function:orders:live" ∨
          Target.Written ordersLoaded r "arn:aws:lambda:r:1:function:orders:live") := by
  have hregion : ':' ∉ "r".toList := by decide
  have harn : (Target.logicalId "Live").arnText ordersLoaded =
      .ok "arn:aws:lambda:r:1:function:orders:live" := by decide
  exact ⟨ofDescription_ordersStack, hregion, harn,
    arn_of_any_physicalId ofDescription_ordersStack hregion none harn⟩

/-- **Two ARNs that cannot be targets**: a function that is named by an ARN with seven segments
gets another one written around it, with too many segments, and a text with six segments that is
no ARN is passed on. -/
theorem arns_without_target :
    ofDescription "orders" "r" ordersStack = .ok ordersLoaded ∧ ':' ∉ "r".toList ∧
      (Target.logicalId "Handler").arnText ordersLoaded =
        .ok "arn:aws:lambda:r:1:function:arn:aws:lambda:r:1:function:orders" ∧
      Arn.parse "arn:aws:lambda:r:1:function:arn:aws:lambda:r:1:function:orders" = .error
        (.invalidArn "arn:aws:lambda:r:1:function:arn:aws:lambda:r:1:function:orders" 13) ∧
      (Target.logicalId "Events").arnText ordersLoaded = .ok "a:b:c:d:e:f" ∧
      Text.startsWith "a:b:c:d:e:f" "arn:" = false ∧
      Target.parse "a:b:c:d:e:f" = .ok (.logicalId "a:b:c:d:e:f") := by
  refine ⟨ofDescription_ordersStack, ?_, ?_, ?_, ?_, ?_, ?_⟩
  all_goals decide

end Registry

end StackPlaybook
