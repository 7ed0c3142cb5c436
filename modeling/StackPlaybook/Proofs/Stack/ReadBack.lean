import StackPlaybook.Stack.Target

/-!
# StackPlaybook.Proofs.Stack.ReadBack

ARNs that are written for the resources of a stack can be read again.  A written ARN has
the service of the resource's type, the region and the account of the registry, and names
the resource.

* `parse_synthesize` — what is written is an ARN, with the parts it was written from;
* `resourceOf_of_plain`, `resourceOf_url` — the name that is written for a physical ID;
* `arnText_reads_back` — so the ARN of a target reads back, unless its physical ID is an
  ARN already.
-/

namespace StackPlaybook

/-! ## Parts of an ARN -/

namespace Arn

/-- No segment holds a colon. -/
theorem colon_not_mem_segment (a : Arn) (i : Nat) : ':' ∉ (a.segment i).toList := by
  rw [segment, List.getD_eq_getElem?_getD]
  cases hseg : a.segments[i]? with
  | none => simp
  | some s =>
      obtain ⟨cs, hcs, rfl⟩ := List.mem_map.mp (List.mem_of_getElem? hseg)
      simpa using Text.not_mem_of_mem_splitAt hcs

/-- What follows a slash is all that is left of a segment with one slash. -/
theorem afterOnlySlash_append {kind name : List Char} (hkind : '/' ∉ kind) (hname : '/' ∉ name) :
    afterOnlySlash (kind ++ '/' :: name) = name := by
  rw [afterOnlySlash, Text.splitAt_run hkind, Text.splitAt_of_not_mem hname]

theorem afterOnlySlash_of_not_mem {segment : List Char} (h : '/' ∉ segment) :
    afterOnlySlash segment = segment := by
  rw [afterOnlySlash, Text.splitAt_of_not_mem h]

end Arn

/-! ## Hints -/

namespace ServiceHint

/-- What may stand before the name of a resource: nothing, or a word with a colon or a
slash after it. -/
inductive Lead : List Char → Prop
  | none : Lead []
  | segment {kind : List Char} (plain : ':' ∉ kind) : Lead (kind ++ [':'])
  | path {kind : List Char} (plain : ':' ∉ kind) (flat : '/' ∉ kind) : Lead (kind ++ ['/'])

/-- A hint from which a readable ARN is written. -/
structure Legible (hint : ServiceHint) : Prop where
  service : ':' ∉ hint.service.toList
  lead : Lead hint.lead.toList

/-- The hint of every supported type is legible. -/
theorem legible_of_serviceHint? {resourceType : String} {hint : ServiceHint}
    (h : serviceHint? resourceType = some hint) : hint.Legible := by
  have hall : ∀ e ∈ serviceTable, e.2.Legible := by
    simp only [serviceTable, List.forall_mem_cons]
    refine ⟨⟨by decide, ?_⟩, ⟨by decide, .none⟩, ⟨by decide, .none⟩, ⟨by decide, ?_⟩,
      ⟨by decide, ?_⟩, nofun⟩
    · exact @Lead.segment "function".toList (by decide)
    · exact @Lead.path "table".toList (by decide) (by decide)
    · exact @Lead.path "stream".toList (by decide) (by decide)
  obtain ⟨before, after, htable, -⟩ := List.lookup_eq_some_iff.mp h
  exact hall (resourceType, hint) (by simp [htable])

/-- The last part of an ARN: one or two segments, which name the resource. -/
theorem Lead.splitAt_append {lead name : List Char} (h : Lead lead) (hcolon : ':' ∉ name)
    (hslash : '/' ∉ name) :
    ∃ runs last, Text.splitAt ':' (lead ++ name) = runs ++ [last] ∧ runs.length ≤ 1 ∧
      Arn.afterOnlySlash last = name := by
  cases h with
  | none => exact ⟨[], name, Text.splitAt_of_not_mem hcolon, Nat.zero_le 1,
      Arn.afterOnlySlash_of_not_mem hslash⟩
  | @segment kind plain =>
      refine ⟨[kind], name, ?_, Nat.le_refl 1, Arn.afterOnlySlash_of_not_mem hslash⟩
      rw [List.append_assoc, List.singleton_append, Text.splitAt_run plain,
        Text.splitAt_of_not_mem hcolon]
      rfl
  | @path kind plain flat =>
      have hlast : ':' ∉ kind ++ '/' :: name := by simp [plain, hcolon]
      refine ⟨[], kind ++ '/' :: name, ?_, Nat.zero_le 1, Arn.afterOnlySlash_append flat hslash⟩
      rw [List.append_assoc, List.singleton_append, Text.splitAt_of_not_mem hlast]
      rfl

/-- Five segments and a colon after each. -/
theorem splitAt_five {a b c d e : List Char} (ha : ':' ∉ a) (hb : ':' ∉ b) (hc : ':' ∉ c)
    (hd : ':' ∉ d) (he : ':' ∉ e) (rest : List Char) :
    Text.splitAt ':' (a ++ ':' :: (b ++ ':' :: (c ++ ':' :: (d ++ ':' :: (e ++ ':' :: rest))))) =
      [a, b, c, d, e] ++ Text.splitAt ':' rest := by
  rw [Text.splitAt_run ha, Text.splitAt_run hb, Text.splitAt_run hc, Text.splitAt_run hd,
    Text.splitAt_run he]
  rfl

section Synthesize

variable {hint : ServiceHint} {region account physicalId : String}

/-- The segments of an ARN as it is written. -/
theorem splitAt_synthesize (hhint : hint.Legible) (hregion : ':' ∉ region.toList)
    (haccount : ':' ∉ account.toList) :
    Text.splitAt ':' (hint.synthesize region account physicalId).toList =
      ["arn".toList, "aws".toList, hint.service.toList, region.toList, account.toList] ++
        Text.splitAt ':' (hint.lead.toList ++ (resourceOf physicalId).toList) := by
  -- The literals are generalised: matching them against the lemmas on `++` is slow.
  have hchars : ∀ opening colon : String,
      opening.toList = "arn".toList ++ ':' :: ("aws".toList ++ [':']) → colon.toList = [':'] →
      (opening ++ hint.service ++ colon ++ region ++ colon ++ account ++ colon ++ hint.lead ++
        resourceOf physicalId).toList =
        "arn".toList ++ ':' :: ("aws".toList ++ ':' :: (hint.service.toList ++ ':' ::
          (region.toList ++ ':' :: (account.toList ++ ':' ::
            (hint.lead.toList ++ (resourceOf physicalId).toList))))) := by
    intro opening colon hopening hcolon
    simp only [String.toList_append, hopening, hcolon, List.append_assoc, List.cons_append,
      List.nil_append]
  exact (congrArg (Text.splitAt ':') (hchars "arn:aws:" ":" (by decide) (by decide))).trans
    (splitAt_five (by decide) (by decide) hhint.service hregion haccount _)

/-- **A written ARN** has the parts that it was written from. -/
theorem parse_synthesize (hhint : hint.Legible) (hregion : ':' ∉ region.toList)
    (haccount : ':' ∉ account.toList) (hcolon : ':' ∉ (resourceOf physicalId).toList)
    (hslash : '/' ∉ (resourceOf physicalId).toList) :
    ∃ a, Arn.parse (hint.synthesize region account physicalId) = .ok a ∧
      a.service = hint.service ∧ a.region = region ∧ a.account = account ∧
      a.resourceName = resourceOf physicalId := by
  have hsplit : Text.splitAt ':' (hint.synthesize region account physicalId).toList = _ :=
    splitAt_synthesize hhint hregion haccount
  obtain ⟨runs, last, hlast, hruns, hname⟩ := hhint.lead.splitAt_append hcolon hslash
  rw [hlast] at hsplit
  have hsegments : colonSegments (hint.synthesize region account physicalId) =
      6 + runs.length := by
    rw [colonSegments, hsplit]
    simp
    omega
  let a : Arn := ⟨hint.synthesize region account physicalId, by omega, by omega⟩
  have hparse : Arn.parse a.text = .ok a := Arn.parse_text a
  have hparts : a.segments = (["arn".toList, "aws".toList, hint.service.toList, region.toList,
      account.toList] ++ (runs ++ [last])).map String.ofList :=
    congrArg (List.map String.ofList) hsplit
  refine ⟨a, hparse, ?_, ?_, ?_, ?_⟩
  · simp [Arn.service, Arn.segment, hparts]
  · simp [Arn.region, Arn.segment, hparts]
  · simp [Arn.account, Arn.segment, hparts]
  · have hend : (Text.splitAt ':' a.text.toList).getLastD [] = last := by
      rw [show a.text.toList = _ from rfl, hsplit, ← List.append_assoc]
      exact List.getLastD_concat ..
    rw [Arn.resourceName, hend, hname, String.ofList_toList]

end Synthesize

/-! ## Names of physical IDs -/

/-- A physical ID without colons is a name. -/
theorem resourceOf_of_plain {physicalId : String} (h : ':' ∉ physicalId.toList) :
    resourceOf physicalId = physicalId := by
  have hurl : isUrl physicalId.toList = false := by
    rw [isUrl, Bool.or_eq_false_iff]
    refine ⟨?_, ?_⟩
    · refine Bool.eq_false_iff.mpr fun hlead => h ?_
      exact (List.isPrefixOf_iff_prefix.mp hlead).subset (by decide)
    · refine Bool.eq_false_iff.mpr fun hlead => h ?_
      exact (List.isPrefixOf_iff_prefix.mp hlead).subset (by decide)
  rw [resourceOf, hurl]
  rfl

/-- The last segment of a path, whatever slashes follow it. -/
theorem lastPathSegment_append {path name : List Char} (hname : name ≠ []) (hslash : '/' ∉ name)
    (slashes : Nat) :
    lastPathSegment (path ++ '/' :: name ++ List.replicate slashes '/') = name := by
  have hkeep : ((path ++ '/' :: name).reverse).dropWhile (· == '/') =
      (path ++ '/' :: name).reverse := by
    obtain ⟨c, cs, hrev⟩ := List.exists_cons_of_ne_nil (List.reverse_ne_nil_iff.mpr hname)
    have hc : c ≠ '/' := by
      rintro rfl
      exact hslash (List.mem_reverse.mp (hrev ▸ List.mem_cons_self))
    simp [List.reverse_append, hrev, hc]
  have hdrop : ((path ++ '/' :: name ++ List.replicate slashes '/').reverse).dropWhile (· == '/') =
      (path ++ '/' :: name).reverse := by
    rw [List.reverse_append, List.reverse_replicate, List.dropWhile_append_of_pos, hkeep]
    intro c hc
    simp [List.eq_of_mem_replicate hc]
  rw [lastPathSegment, hdrop, List.reverse_reverse, Text.splitAt_append_cons,
    Text.splitAt_of_not_mem hslash]
  exact List.getLastD_concat ..

/-- A web address with a path. -/
structure Url (physicalId : String) (name : String) : Prop where
  written : ∃ scheme path slashes, (scheme = "https://" ∨ scheme = "http://") ∧
    physicalId = scheme ++ path ++ "/" ++ name ++ String.ofList (List.replicate slashes '/')
  nonempty : name ≠ ""
  colon : ':' ∉ name.toList
  slash : '/' ∉ name.toList

/-- A web address is named by the last segment of its path. -/
theorem resourceOf_url {physicalId name : String} (h : Url physicalId name) :
    resourceOf physicalId = name := by
  obtain ⟨scheme, path, slashes, hscheme, rfl⟩ := h.written
  have hchars : (scheme ++ path ++ "/" ++ name ++
      String.ofList (List.replicate slashes '/')).toList =
        scheme.toList ++ path.toList ++ '/' :: name.toList ++ List.replicate slashes '/' := by
    simp
  have hlead : scheme.toList <+: scheme.toList ++ path.toList ++ '/' :: name.toList ++
      List.replicate slashes '/' := by
    simp only [List.append_assoc]
    exact List.prefix_append _ _
  have hurl : isUrl (scheme.toList ++ path.toList ++ '/' :: name.toList ++
      List.replicate slashes '/') = true := by
    rw [isUrl, Bool.or_eq_true]
    rcases hscheme with rfl | rfl
    · exact .inl (List.isPrefixOf_iff_prefix.mpr hlead)
    · exact .inr (List.isPrefixOf_iff_prefix.mpr hlead)
  have hname : name.toList ≠ [] := by simpa using h.nonempty
  rw [resourceOf, hchars, if_pos hurl, lastPathSegment_append hname h.slash,
    String.ofList_toList]

end ServiceHint

/-! ## Targets -/

theorem isArnShaped_iff {physicalId : String} :
    isArnShaped physicalId = true ↔ physicalId.toList.count ':' = 5 := by
  rw [isArnShaped, colonSegments_eq]
  simp

namespace Target

variable {registry : Registry} {id : String} {r : Resource}

/-- A physical ID that is an ARN already is the ARN of its resource, whatever its type. -/
theorem arnText_of_arnShaped (h : registry.lookup id = some r)
    (hshape : r.physicalId.toList.count ':' = 5) :
    (logicalId id).arnText registry = .ok r.physicalId := by
  simp only [arnText, find_eq_ok_iff.mpr h, Except.bind, arnOf]
  rw [if_pos (isArnShaped_iff.mpr hshape)]

/-- Any other ARN of a supported type is written. -/
theorem arnText_of_hint (h : registry.lookup id = some r) {hint : ServiceHint}
    (hhint : serviceHint? r.resourceType = some hint)
    (hshape : r.physicalId.toList.count ':' ≠ 5) :
    (logicalId id).arnText registry =
      .ok (hint.synthesize registry.region registry.account r.physicalId) := by
  simp only [arnText, find_eq_ok_iff.mpr h, Except.bind, arnOf]
  rw [if_neg (fun hs => hshape (isArnShaped_iff.mp hs)), hhint]

/-- The ARN of a target can be read: it has a service and the region and the account of
the registry, and names a resource. -/
structure ReadsBack (registry : Registry) (target : Target) (service name : String) : Prop where
  arn : ∃ text a, target.arnText registry = .ok text ∧ Arn.parse text = .ok a ∧
    a.service = service ∧ a.region = registry.region ∧ a.account = registry.account ∧
    a.resourceName = name

/-- An ARN that was written for a supported type reads back as the service and the name. -/
theorem readsBack_of_hint (h : registry.lookup id = some r) {hint : ServiceHint}
    (hhint : serviceHint? r.resourceType = some hint) (hregion : ':' ∉ registry.region.toList)
    (haccount : ':' ∉ registry.account.toList) (hshape : r.physicalId.toList.count ':' ≠ 5)
    {name : String} (hname : ServiceHint.resourceOf r.physicalId = name)
    (hcolon : ':' ∉ name.toList) (hslash : '/' ∉ name.toList) :
    ReadsBack registry (.logicalId id) hint.service name := by
  subst hname
  obtain ⟨a, hparse, hparts⟩ := ServiceHint.parse_synthesize
    (ServiceHint.legible_of_serviceHint? hhint) hregion haccount hcolon hslash
  exact ⟨_, a, arnText_of_hint h hhint hshape, hparse, hparts⟩

end Target

/-! ## Registries of descriptions -/

namespace Registry

/-- The account of a stack is a segment of the stack's ARN. -/
theorem colon_not_mem_account {stack region : String} {d : StackDescription} {built : Registry}
    (h : ofDescription stack region d = .ok built) :
    built.region = region ∧ ':' ∉ built.account.toList := by
  obtain ⟨a, -, rfl⟩ := exists_of_ofDescription h
  exact ⟨rfl, a.colon_not_mem_segment 4⟩

/-- **Written ARNs read back**, for every resource that a registry finds, with a manifest or
without one.  A physical ID without colons and slashes is the name in the ARN of a supported
type; of a web address it is the last segment of the path.  A physical ID with five colons
is an ARN already, and stays what it is. -/
theorem arnText_reads_back {stack region : String} {d : StackDescription} {built : Registry}
    (hbuilt : ofDescription stack region d = .ok built) (hregion : ':' ∉ region.toList)
    (manifest : Option Manifest) {id : String} {r : Resource}
    (hfound : (manifest.elim built built.withManifest).lookup id = some r) :
    let registry := manifest.elim built built.withManifest
    let target := Target.logicalId id
    target.name registry = .ok r.physicalId ∧
      (∀ hint, serviceHint? r.resourceType = some hint → ':' ∉ r.physicalId.toList →
        '/' ∉ r.physicalId.toList →
          Target.ReadsBack registry target hint.service r.physicalId) ∧
      (∀ hint name, serviceHint? r.resourceType = some hint →
        ServiceHint.Url r.physicalId name → r.physicalId.toList.count ':' ≠ 5 →
          Target.ReadsBack registry target hint.service name) ∧
      (r.physicalId.toList.count ':' = 5 → target.arnText registry = .ok r.physicalId) := by
  intro registry target
  obtain ⟨hbuiltRegion, hbuiltAccount⟩ := colon_not_mem_account hbuilt
  have hsame : registry.region = region ∧ registry.account = built.account := by
    cases manifest <;> exact ⟨hbuiltRegion, rfl⟩
  have hregion' : ':' ∉ registry.region.toList := by rwa [hsame.1]
  have haccount' : ':' ∉ registry.account.toList := by rwa [hsame.2]
  refine ⟨?_, fun hint hhint hcolon hslash => ?_, fun hint name hhint hurl hshape => ?_,
    Target.arnText_of_arnShaped hfound⟩
  · rw [Target.name, Target.find_eq_ok_iff.mpr hfound]
    rfl
  · have hshape : r.physicalId.toList.count ':' ≠ 5 := by
      rw [List.count_eq_zero.mpr hcolon]
      decide
    exact Target.readsBack_of_hint hfound hhint hregion' haccount' hshape
      (ServiceHint.resourceOf_of_plain hcolon) hcolon hslash
  · exact Target.readsBack_of_hint hfound hhint hregion' haccount' hshape
      (ServiceHint.resourceOf_url hurl) hurl.colon hurl.slash

/-- A queue that is named by its address. -/
def jobs : Resource := ⟨"Jobs", "https://sqs.r:443/1/jobs//", "AWS::SQS::Queue"⟩

/-- A queue whose physical ID is a URL. -/
theorem jobs_reads_back :
    let d : StackDescription := ⟨"arn:aws:cloudformation:r:1:stack/orders/x", [jobs]⟩
    ∃ built, ofDescription "orders" "r" d = .ok built ∧ ':' ∉ "r".toList ∧
      built.lookup "Jobs" = some jobs ∧ serviceHint? jobs.resourceType = some ⟨"sqs", ""⟩ ∧
      ServiceHint.Url jobs.physicalId "jobs" ∧ jobs.physicalId.toList.count ':' ≠ 5 ∧
      Target.ReadsBack built (.logicalId "Jobs") "sqs" "jobs" := by
  intro d
  let stackArn : Arn := ⟨d.stackId, by decide, by decide⟩
  let built : Registry :=
    ⟨"orders", "r", stackArn.account, Table.ofList [("Jobs", jobs)], none⟩
  have hbuilt : ofDescription "orders" "r" d = .ok built := by
    rw [ofDescription, show Arn.parse d.stackId = .ok stackArn from Arn.parse_text stackArn]
    rfl
  have hregion : ':' ∉ "r".toList := by decide
  have hfound : built.lookup "Jobs" = some jobs := by decide
  have hurl : ServiceHint.Url jobs.physicalId "jobs" :=
    ⟨⟨"https://", "sqs.r:443/1", 2, .inl rfl, by decide⟩, by decide, by decide, by decide⟩
  have hshape : jobs.physicalId.toList.count ':' ≠ 5 := by decide
  exact ⟨built, hbuilt, hregion, hfound, rfl, hurl, hshape,
    (arnText_reads_back hbuilt hregion none hfound).2.2.1 ⟨"sqs", ""⟩ "jobs" rfl hurl hshape⟩

end Registry

end StackPlaybook
