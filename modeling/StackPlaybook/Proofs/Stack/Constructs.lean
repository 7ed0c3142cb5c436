import StackPlaybook.Proofs.Stack.Lookup
import StackPlaybook.Proofs.Traversal

/-!
# StackPlaybook.Proofs.Stack.Constructs

The constructs that a cloud assembly records, whatever order its artifacts and their metadata
are visited in.

* `constructOf?_eq_some_iff` — a metadata path of a stack stands for one construct at most, and
  a construct for one path;
* `checked_ofAssembly` — an assembly is refused just if some entry that is to name a logical ID
  is no text;
* `Mapping.of_sound` — otherwise the logical ID of a construct is the last one named under its
  path;
* `mapping_in_any_order` — and so it is for every order of an assembly that a document holds.
-/

namespace StackPlaybook

/-- The text of an entry. -/
def MetadataEntry.name (e : MetadataEntry) : String := e.data.text?.getD ""

namespace Manifest

/-! ## Paths -/

/-- The metadata path under which a construct of a stack is recorded. -/
def pathOf (stack construct : String) : String :=
  "/" ++ stack ++ "/" ++ construct ++ "/Resource"

/-- **Paths and constructs**: just one metadata path of a stack stands for a construct. -/
theorem constructOf?_eq_some_iff {stack path construct : String} :
    constructOf? stack path = some construct ↔ path = pathOf stack construct := by
  have hpath : (pathOf stack construct).toList =
      ('/' :: stack.toList ++ ['/']) ++ (construct.toList ++ "/Resource".toList) := by
    simp [pathOf]
  rw [← String.toList_inj, hpath]
  simp only [constructOf?, Option.bind_eq_bind, Option.bind_eq_some_iff,
    Text.afterLead_eq_some_iff, Text.beforeTail_eq_some_iff]
  constructor
  · rintro ⟨rest, hrest, name, rfl, hname⟩
    obtain rfl := Option.some.inj hname
    rw [String.toList_ofList]
    exact hrest
  · exact fun h => ⟨_, h, _, rfl, congrArg some String.ofList_toList⟩

/-! ## Entries -/

/-- Every entry that is to name a logical ID is a text. -/
def AllTexts (entries : List MetadataEntry) : Prop :=
  ∀ e ∈ entries, e.kind = logicalIdKind → ∃ id, e.data = .text id

/-- The last entry that names a logical ID. -/
def lastNaming? (entries : List MetadataEntry) : Option MetadataEntry :=
  (entries.filter (·.kind == logicalIdKind)).getLast?

/-- The logical IDs that entries name. -/
def namesIn (entries : List MetadataEntry) : List String :=
  (entries.filter (·.kind == logicalIdKind)).map (·.name)

/-- The constructs that the entries under a metadata path of a stack name logical IDs for: one
or none. -/
def namedUnder (stack : String) (metadata : String × List MetadataEntry) :
    List (String × String) :=
  match constructOf? stack metadata.1 with
  | none => []
  | some construct => (namesIn metadata.2).map ((construct, ·))

/-! ## Refusals -/

/-- A computation that gives a value if a condition holds, and is an error of manifests
otherwise. -/
inductive Checked {α : Type} (P : Prop) (a : α) : Except Error α → Prop
  | passed (h : P) : Checked P a (.ok a)
  | refused (h : ¬ P) (text : String) : Checked P a (.error (.manifestParse text))

namespace Checked

variable {α β : Type} {P Q : Prop} {a : α} {x : Except Error α}

theorem map (h : Checked P a x) (f : α → β) : Checked P (f a) (x.map f) := by
  cases h with
  | passed h => exact .passed h
  | refused h text => exact .refused h text

theorem congr (h : Checked P a x) (hiff : P ↔ Q) : Checked Q a x := by
  cases h with
  | passed h => exact .passed (hiff.mp h)
  | refused h text => exact .refused (fun hq => h (hiff.mpr hq)) text

/-- A list is checked element by element, and refused if one of them is. -/
theorem mapM {f : α → Except Error β} {p : α → Prop} {g : α → β}
    (h : ∀ x, Checked (p x) (g x) (f x)) (xs : List α) :
    Checked (∀ x ∈ xs, p x) (xs.map g) (xs.mapM f) := by
  induction xs with
  | nil => exact .passed (by simp)
  | cons x xs ih =>
      rw [mapM_cons_eq_map, List.map_cons]
      refine .congr ?_ List.forall_mem_cons.symm
      have hfirst := h x
      generalize f x = y at hfirst ⊢
      cases hfirst with
      | passed hyes => exact (ih.map (g x :: ·)).congr (by simp [hyes])
      | refused hno text => exact .refused (fun hall => hno hall.1) text

end Checked

/-- Entries are refused if one that is to name a logical ID is no text. -/
theorem checked_idsOfEntries (path : String) (entries : List MetadataEntry) :
    Checked (AllTexts entries) (namesIn entries) (idsOfEntries path entries) := by
  unfold idsOfEntries namesIn
  refine .congr (Checked.mapM (fun (e : MetadataEntry) =>
    (?_ : Checked (∃ id, e.data = .text id) e.name _)) _) ?_
  · unfold MetadataEntry.name
    cases e.data <;> first
      | exact .passed ⟨_, rfl⟩
      | exact .refused (by simp) _
  · simp [AllTexts]

/-- An artifact is refused for entries under the path of a construct only. -/
theorem checked_idsOfArtifact (stack : String) (artifact : Artifact) :
    Checked (∀ m ∈ artifact, ∀ construct, m.1 = pathOf stack construct → AllTexts m.2)
      (artifact.flatMap (namedUnder stack)) (idsOfArtifact stack artifact) := by
  rw [List.flatMap_def]
  refine (Checked.mapM (fun m => ?_) artifact).map List.flatten
  obtain ⟨path, entries⟩ := m
  unfold namedUnder
  dsimp only
  cases hc : constructOf? stack path with
  | none =>
      refine .passed fun construct h => ?_
      rw [constructOf?_eq_some_iff.mpr h] at hc
      cases hc
  | some construct =>
      have hm := constructOf?_eq_some_iff.mp hc
      exact ((checked_idsOfEntries path entries).map _).congr
        ⟨fun h _ _ => h, fun h => h construct hm⟩

/-! ## Look-ups -/

/-- Where no key comes twice, the elements with one key are those of the entry that is found. -/
theorem flatMap_ite_eq {α β : Type} {es : List (String × α)} (hd : (es.map (·.1)).Nodup)
    (k : String) (f : α → List β) :
    (es.flatMap fun e => if e.1 = k then f e.2 else []) =
      ((es.find? (·.1 == k)).map (·.2)).elim [] f := by
  induction es with
  | nil => rfl
  | cons e es ih =>
      obtain ⟨hfirst, hrest⟩ := List.nodup_cons.mp hd
      rw [List.flatMap_cons, ih hrest]
      by_cases hk : e.1 = k
      · have hnone : es.find? (·.1 == k) = none := List.find?_eq_none.mpr fun e' he' h =>
          hfirst (List.mem_map.mpr ⟨e', he', (beq_iff_eq.mp h).trans hk.symm⟩)
        simp [hk, hnone]
      · simp [hk]

/-- What is named for a construct is named under its path. -/
theorem filter_namedUnder (stack construct : String) (m : String × List MetadataEntry) :
    (namedUnder stack m).filter (·.1 == construct) =
      if m.1 = pathOf stack construct then (namesIn m.2).map ((construct, ·)) else [] := by
  unfold namedUnder
  by_cases hm : m.1 = pathOf stack construct
  · rw [if_pos hm, constructOf?_eq_some_iff.mpr hm]
    simp [List.filter_map, Function.comp_def]
  · rw [if_neg hm]
    cases hc : constructOf? stack m.1 with
    | none => rfl
    | some c =>
        -- two constructs have two paths
        have hne : c ≠ construct := fun heq => hm (heq ▸ constructOf?_eq_some_iff.mp hc)
        simp [List.filter_map, Function.comp_def, hne]

/-- The logical ID of a construct is the last one named under its path. -/
theorem get?_namedUnder {artifact : Artifact} (hd : (artifact.map (·.1)).Nodup)
    {stack construct id : String} :
    (Table.ofList (artifact.flatMap (namedUnder stack))).get? construct = some id ↔
      ∃ entries, (pathOf stack construct, entries) ∈ artifact ∧
        (namesIn entries).getLast? = some id := by
  rw [Table.get?_ofList, ← List.getLast?_filter, List.filter_flatMap]
  simp only [filter_namedUnder]
  rw [flatMap_ite_eq hd (pathOf stack construct) fun entries =>
    (namesIn entries).map ((construct, ·))]
  simp only [← Table.find?_eq_some_iff_mem hd]
  cases (artifact.find? (·.1 == pathOf stack construct)).map (·.2) with
  | none => simp
  | some entries => simp

end Manifest

namespace Assembly

open Manifest

variable {a b : Assembly} {stack construct id : String}

/-- The entries that an assembly lists under the metadata path of a construct. -/
def Lists (a : Assembly) (stack construct : String) (entries : List MetadataEntry) : Prop :=
  ∃ artifact, (stack, artifact) ∈ a ∧ (pathOf stack construct, entries) ∈ artifact

/-- Some entry that is to name the logical ID of a construct is no text. -/
def Broken (a : Assembly) : Prop :=
  ∃ stack construct entries, a.Lists stack construct entries ∧
    ∃ e ∈ entries, e.kind = logicalIdKind ∧ ∀ id, e.data ≠ .text id

/-- The mapping of an assembly that is not broken. -/
def manifest (a : Assembly) : Manifest :=
  ⟨Table.ofList ((a.map fun s => (s.1, Table.ofList (s.2.flatMap (namedUnder s.1)))).filter
    fun s => !s.2.isEmpty)⟩

/-- No artifact comes twice, and no metadata path in one of them. -/
structure Keyed (a : Assembly) : Prop where
  names : (a.map (·.1)).Nodup
  paths : ∀ s ∈ a, (s.2.map (·.1)).Nodup

theorem not_broken_iff : ¬ a.Broken ↔
    ∀ stack construct entries, a.Lists stack construct entries → AllTexts entries := by
  constructor
  · intro h stack construct entries hlists e he hkind
    refine Classical.byContradiction fun hdata => h ⟨stack, construct, entries, hlists, e, he, hkind,
      fun id hid => hdata ⟨id, hid⟩⟩
  · rintro h ⟨stack, construct, entries, hlists, e, he, hkind, hdata⟩
    obtain ⟨id, hid⟩ := h stack construct entries hlists e he hkind
    exact hdata id hid

/-- **What is refused**: an assembly gives its mapping, unless it is broken. -/
theorem checked_ofAssembly (a : Assembly) : Checked (¬ a.Broken) a.manifest (ofAssembly a) := by
  have hartifact (s : String × Artifact) :
      Checked (∀ m ∈ s.2, ∀ construct, m.1 = pathOf s.1 construct → AllTexts m.2)
        (s.1, Table.ofList (s.2.flatMap (namedUnder s.1)))
        ((idsOfArtifact s.1 s.2).map fun ids => (s.1, Table.ofList ids)) :=
    (checked_idsOfArtifact s.1 s.2).map fun ids => (s.1, Table.ofList ids)
  refine .congr ((Checked.mapM hartifact a).map fun tables =>
    (⟨Table.ofList (tables.filter fun s => !s.2.isEmpty)⟩ : Manifest)) ?_
  rw [not_broken_iff]
  constructor
  · rintro h stack construct entries ⟨artifact, ha, hm⟩
    exact h _ ha _ hm construct rfl
  · rintro h ⟨stack, artifact⟩ ha ⟨path, entries⟩ hm construct rfl
    exact h stack construct entries ⟨artifact, ha, hm⟩

/-- The mapping of an assembly has the last ID that is listed for a construct. -/
theorem logicalId?_manifest (h : a.Keyed) :
    a.manifest.logicalId? stack construct = some id ↔
      ∃ entries, a.Lists stack construct entries ∧ (namesIn entries).getLast? = some id := by
  have hkeys : (((a.map fun s => (s.1, Table.ofList (s.2.flatMap (namedUnder s.1)))).filter
      fun s => !s.2.isEmpty).map (·.1)).Nodup := by
    refine .sublist (List.filter_sublist.map _) ?_
    rw [List.map_map]
    exact h.names
  rw [Manifest.logicalId?, manifest, Option.bind_eq_some_iff]
  simp only [Table.get?_ofList_eq_some_iff hkeys, List.mem_filter, List.mem_map]
  constructor
  · rintro ⟨t, ⟨⟨⟨_, artifact⟩, ha, heq⟩, -⟩, hid⟩
    obtain ⟨rfl, rfl⟩ := Prod.mk.inj heq
    obtain ⟨entries, hm, hlast⟩ := (get?_namedUnder (h.paths _ ha)).mp hid
    exact ⟨entries, ⟨artifact, ha, hm⟩, hlast⟩
  · rintro ⟨entries, ⟨artifact, ha, hm⟩, hlast⟩
    have hid := (get?_namedUnder (h.paths _ ha)).mpr ⟨entries, hm, hlast⟩
    exact ⟨_, ⟨⟨_, ha, rfl⟩, by simp [Table.isEmpty_of_get?_eq_some hid]⟩, hid⟩

/-! ## Orders -/

/-- The same artifacts in any order, and the metadata of each in any order. -/
def Shuffled (a b : Assembly) : Prop :=
  ∃ reorder : String → Artifact → Artifact,
    (∀ stack artifact, (reorder stack artifact).Perm artifact) ∧
      b.Perm (a.map fun s => (s.1, reorder s.1 s.2))

/-- In another order there is still nothing twice. -/
theorem Shuffled.keyed (h : a.Shuffled b) (ha : a.Keyed) : b.Keyed := by
  obtain ⟨reorder, hreorder, hperm⟩ := h
  constructor
  · rw [(hperm.map _).nodup_iff, List.map_map]
    exact ha.names
  · intro s hs
    obtain ⟨s, hs', rfl⟩ := List.mem_map.mp (hperm.mem_iff.mp hs)
    exact ((hreorder s.1 s.2).map _).nodup_iff.mpr (ha.paths s hs')

/-- In another order the same is listed for each construct. -/
theorem Shuffled.lists_iff (h : a.Shuffled b) {entries : List MetadataEntry} :
    b.Lists stack construct entries ↔ a.Lists stack construct entries := by
  obtain ⟨reorder, hreorder, hperm⟩ := h
  constructor
  · rintro ⟨artifact, hb, hm⟩
    obtain ⟨⟨_, artifact⟩, ha, heq⟩ := List.mem_map.mp (hperm.mem_iff.mp hb)
    obtain ⟨rfl, rfl⟩ := Prod.mk.inj heq
    exact ⟨artifact, ha, (hreorder _ artifact).mem_iff.mp hm⟩
  · rintro ⟨artifact, ha, hm⟩
    exact ⟨reorder stack artifact, hperm.mem_iff.mpr (List.mem_map.mpr ⟨_, ha, rfl⟩),
      (hreorder stack artifact).mem_iff.mpr hm⟩

theorem Shuffled.broken_iff (h : a.Shuffled b) : b.Broken ↔ a.Broken := by
  simp only [Broken, h.lists_iff]

/-! ## Documents -/

open Json.Reader in
/-- What is read through the one field of a type is a table of what its reader accepts. -/
theorem exists_of_readEntries {α : Type} {name : String} {r : Json.Reader α} {room : Nat}
    {t : Json.Tree} {es : List (String × α)}
    (h : fields [name] (fun room given =>
      match given with
      | [field] => (field.orElse Table.empty (table r) room).map Table.entries
      | _ => none) room t = some es) :
    ∃ read : Table α, es = read.entries ∧ ∀ e ∈ read.entries, ∃ room t, r room t = some e.2 := by
  obtain ⟨room, given, hbuild⟩ := exists_of_fields h
  split at hbuild
  · obtain ⟨read, hread, rfl⟩ := Option.map_eq_some_iff.mp hbuild
    refine ⟨read, rfl, ?_⟩
    exact Given.of_orElse (fun read => ∀ e ∈ read.entries, ∃ room t, r room t = some e.2) hread
      nofun fun t ht e he => exists_of_mem_table ht he
  · cases hbuild

/-- What a document holds has nothing twice: the last entry of a key is the one that counts. -/
theorem keyed_of_read {document : String}
    (h : Assembly.reader.run? document = some a) : a.Keyed := by
  obtain ⟨t, -, hread⟩ := Option.bind_eq_some_iff.mp h
  obtain ⟨artifacts, rfl, hartifacts⟩ := exists_of_readEntries hread
  refine ⟨artifacts.nodup_keys, fun s hs => ?_⟩
  obtain ⟨room, t, hartifact⟩ := hartifacts s hs
  obtain ⟨metadata, hentries, -⟩ := exists_of_readEntries hartifact
  rw [hentries]
  exact metadata.nodup_keys

end Assembly

namespace Manifest

/-! ## The mapping -/

/-- What comes of the constructs that an assembly lists. -/
inductive Mapping (a : Assembly) : Except Error Manifest → Prop
  | refused (broken : a.Broken) (text : String) : Mapping a (.error (.manifestParse text))
  | mapped {m : Manifest} (sound : ¬ a.Broken)
      (some_iff : ∀ stack construct id, m.logicalId? stack construct = some id ↔
        ∃ entries e, a.Lists stack construct entries ∧ lastNaming? entries = some e ∧
          e.data = .text id)
      (none_iff : ∀ stack construct, m.logicalId? stack construct = none ↔
        ∀ entries, a.Lists stack construct entries → lastNaming? entries = none) :
      Mapping a (.ok m)

/-- Both refused as manifests, or the same answers. -/
inductive MappedAlike : Except Error Manifest → Except Error Manifest → Prop
  | refused (text text' : String) :
      MappedAlike (.error (.manifestParse text)) (.error (.manifestParse text'))
  | mapped {m m' : Manifest}
      (same : ∀ stack construct, m.logicalId? stack construct = m'.logicalId? stack construct) :
      MappedAlike (.ok m) (.ok m')

/-- Whatever comes of the same assembly answers alike. -/
theorem Mapping.alike {a : Assembly} {x y : Except Error Manifest} (hx : Mapping a x)
    (hy : Mapping a y) : MappedAlike x y := by
  cases hx with
  | refused broken text =>
      cases hy with
      | refused _ text' => exact .refused text text'
      | mapped sound => exact absurd broken sound
  | mapped sound some_iff none_iff =>
      cases hy with
      | refused broken => exact absurd broken sound
      | mapped _ some_iff' none_iff' =>
          refine .mapped fun stack construct => Option.ext fun id => ?_
          exact (some_iff stack construct id).trans (some_iff' stack construct id).symm

/-- Where every entry is a text, so is the last one that names a logical ID. -/
theorem exists_text_of_lastNaming {entries : List MetadataEntry} (h : AllTexts entries)
    {e : MetadataEntry} (he : lastNaming? entries = some e) : ∃ id, e.data = .text id := by
  obtain ⟨hmem, hkind⟩ := List.mem_filter.mp (List.mem_of_getLast? he)
  exact h e hmem (beq_iff_eq.mp hkind)

/-- The last name is the one that the last entry of its kind gives. -/
theorem getLast?_namesIn {entries : List MetadataEntry} (h : AllTexts entries) {id : String} :
    (namesIn entries).getLast? = some id ↔
      ∃ e, lastNaming? entries = some e ∧ e.data = .text id := by
  rw [namesIn, List.getLast?_map, Option.map_eq_some_iff]
  refine exists_congr fun e => and_congr_right fun he => ?_
  obtain ⟨id', hid'⟩ := exists_text_of_lastNaming h he
  simp [MetadataEntry.name, Json.Value.text?, hid']

/-- A manifest that is not broken answers with the last logical ID named under a path. -/
theorem Mapping.of_sound {a : Assembly} (h : a.Keyed) (hsound : ¬ a.Broken) :
    Mapping a (.ok a.manifest) := by
  have htexts := Assembly.not_broken_iff.mp hsound
  have hsome (stack construct id : String) :
      a.manifest.logicalId? stack construct = some id ↔ ∃ entries e,
        a.Lists stack construct entries ∧ lastNaming? entries = some e ∧ e.data = .text id := by
    rw [Assembly.logicalId?_manifest h]
    refine exists_congr fun entries => ?_
    rw [exists_and_left]
    exact and_congr_right fun hlists => getLast?_namesIn (htexts stack construct entries hlists)
  refine .mapped hsound hsome fun stack construct => ?_
  rw [Option.eq_none_iff_forall_ne_some]
  constructor
  · intro hnone entries hlists
    refine Option.eq_none_iff_forall_ne_some.mpr fun e he => ?_
    obtain ⟨id, hid⟩ := exists_text_of_lastNaming (htexts stack construct entries hlists) he
    exact hnone id ((hsome stack construct id).mpr ⟨entries, e, hlists, he, hid⟩)
  · intro hnone id hid
    obtain ⟨entries, e, hlists, he, -⟩ := (hsome stack construct id).mp hid
    rw [hnone entries hlists] at he
    cases he

theorem mapping_of_checked {a : Assembly} (h : a.Keyed) {x : Except Error Manifest}
    (hx : Checked (¬ a.Broken) a.manifest x) : Mapping a x := by
  cases hx with
  | passed hsound => exact .of_sound h hsound
  | refused hbroken text => exact .refused (Classical.not_not.mp hbroken) text

/-- What comes of an assembly in another order comes of the assembly. -/
theorem Mapping.of_shuffled {a b : Assembly} (h : a.Shuffled b) {x : Except Error Manifest}
    (hx : Mapping b x) : Mapping a x := by
  cases hx with
  | refused broken text => exact .refused (h.broken_iff.mp broken) text
  | mapped sound some_iff none_iff =>
      simp only [h.broken_iff, h.lists_iff] at sound some_iff none_iff
      exact .mapped sound some_iff none_iff

/-- **A manifest is read the same in any order**: what a document holds has no artifact and no
path twice, and whatever order such an assembly is visited in, it is refused just if an entry
that is to name a logical ID is no text, and otherwise the logical ID of each construct is the
last one named under its path. -/
theorem mapping_in_any_order :
    (∀ (document : String) (a : Assembly), Assembly.reader.run? document = some a →
      a.Keyed ∧ parse document = ofAssembly a) ∧
    ∀ a b : Assembly, a.Keyed → a.Shuffled b →
      Mapping a (ofAssembly b) ∧ MappedAlike (ofAssembly a) (ofAssembly b) := by
  constructor
  · intro document a hread
    refine ⟨Assembly.keyed_of_read hread, ?_⟩
    rw [parse, hread]
  · intro a b hkeyed horder
    have ha : Mapping a (ofAssembly a) := mapping_of_checked hkeyed a.checked_ofAssembly
    have hb : Mapping b (ofAssembly b) :=
      mapping_of_checked (horder.keyed hkeyed) b.checked_ofAssembly
    exact ⟨hb.of_shuffled horder, ha.alike (hb.of_shuffled horder)⟩

/-- A manifest of two stacks, in one of which a table is renamed. -/
def shopDocument : String :=
  "\x7b\"artifacts\":\x7b\"bills\":\x7b\"metadata\":\x7b\"/bills//Resource\":
    [\x7b\"type\":\"aws:cdk:logicalId\",\"data\":\"Bills\"\x7d]\x7d\x7d,
    \"shop\":\x7b\"metadata\":\x7b\"/shop/Db/Table/Resource\":
    [\x7b\"type\":\"aws:cdk:logicalId\",\"data\":\"Old\"\x7d,
    \x7b\"type\":\"aws:cdk:logicalId\",\"data\":\"Sales\"\x7d],
    \"/shop/Resource\":[\x7b\"type\":\"aws:cdk:logicalId\"\x7d]\x7d\x7d\x7d\x7d"

/-- The metadata of both stacks. -/
def billsMetadata : Artifact := [("/bills//Resource", [⟨logicalIdKind, .text "Bills"⟩])]

def tableMetadata : String × List MetadataEntry :=
  ("/shop/Db/Table/Resource", [⟨logicalIdKind, .text "Old"⟩, ⟨logicalIdKind, .text "Sales"⟩])

def shopMetadata : String × List MetadataEntry := ("/shop/Resource", [⟨logicalIdKind, .null⟩])

/-- The assembly as it is read, and with everything the other way round. -/
def shopAssembly : Assembly :=
  [("bills", billsMetadata), ("shop", [tableMetadata, shopMetadata])]

def shopBackwards : Assembly :=
  [("shop", [shopMetadata, tableMetadata]), ("bills", billsMetadata)]

set_option maxRecDepth 4000 in
theorem assembly_shop : Assembly.reader.run? shopDocument = some shopAssembly := by
  rw [Json.Reader.run?, Json.Tree.parse?, shopDocument, String.toList_ofList]
  rfl

/-- The assembly of the shop, and the same one backwards. -/
theorem mapping_in_any_order_shop :
    Assembly.reader.run? shopDocument = some shopAssembly ∧ shopAssembly.Keyed ∧
      parse shopDocument = ofAssembly shopAssembly ∧
      shopAssembly.Shuffled shopBackwards ∧ Mapping shopAssembly (ofAssembly shopBackwards) ∧
      MappedAlike (ofAssembly shopAssembly) (ofAssembly shopBackwards) := by
  obtain ⟨hkeyed, hparse⟩ := mapping_in_any_order.1 shopDocument shopAssembly assembly_shop
  have horder : shopAssembly.Shuffled shopBackwards :=
    ⟨fun _ artifact => artifact.reverse, fun _ artifact => artifact.reverse_perm,
      .swap ("bills", billsMetadata) ("shop", [shopMetadata, tableMetadata]) []⟩
  obtain ⟨hmapping, halike⟩ := mapping_in_any_order.2 shopAssembly shopBackwards hkeyed horder
  exact ⟨assembly_shop, hkeyed, hparse, horder, hmapping, halike⟩

end Manifest

end StackPlaybook
