/-!
# StackPlaybook.Table

Finite maps from texts, kept as a list of entries in strictly ascending order of
their keys.  Inserting overwrites; the order of the entries is the order in which
listings show them.
-/

namespace StackPlaybook

/-- Entries in strictly ascending order of their keys. -/
structure Table (α : Type) where
  entries : List (String × α)
  sorted : entries.Pairwise (fun a b => a.1 < b.1)

namespace Table

variable {α : Type}

def empty : Table α := ⟨[], .nil⟩

instance : Inhabited (Table α) := ⟨empty⟩

/-! ## Inserting -/

/-- Puts an entry in its place, in the stead of one with the same key. -/
def insertEntry (k : String) (v : α) : List (String × α) → List (String × α)
  | [] => [(k, v)]
  | e :: es =>
    if k < e.1 then (k, v) :: e :: es
    else if k = e.1 then (k, v) :: es
    else e :: insertEntry k v es

/-- Inserting adds no entry but the new one. -/
theorem mem_insertEntry {k : String} {v : α} {es : List (String × α)} {e : String × α}
    (h : e ∈ insertEntry k v es) : e = (k, v) ∨ e ∈ es := by
  induction es with
  | nil => simpa [insertEntry] using h
  | cons e' es ih =>
    rw [insertEntry] at h
    split at h
    · simpa using h
    · split at h
      · obtain h | h := List.mem_cons.1 h
        · exact .inl h
        · exact .inr (List.mem_cons_of_mem _ h)
      · obtain rfl | h := List.mem_cons.1 h
        · exact .inr (List.mem_cons_self ..)
        · exact (ih h).imp id (List.mem_cons_of_mem _)

/-- Inserting keeps the keys in order. -/
theorem sorted_insertEntry (k : String) (v : α) {es : List (String × α)}
    (h : es.Pairwise (fun a b => a.1 < b.1)) :
    (insertEntry k v es).Pairwise (fun a b => a.1 < b.1) := by
  induction es with
  | nil => simp [insertEntry]
  | cons e es ih =>
    rw [List.pairwise_cons] at h
    rw [insertEntry]
    split
    · next hk =>
      refine List.pairwise_cons.2 ⟨fun e' he' => ?_, List.pairwise_cons.2 h⟩
      obtain rfl | he' := List.mem_cons.1 he'
      · exact hk
      · exact String.lt_trans hk (h.1 e' he')
    · split
      · next hk =>
        exact List.pairwise_cons.2 ⟨fun e' he' => by simpa [hk] using h.1 e' he', h.2⟩
      · next hlt hne =>
        refine List.pairwise_cons.2 ⟨fun e' he' => ?_, ih h.2⟩
        obtain rfl | he' := mem_insertEntry he'
        · exact Decidable.byContradiction fun hn =>
            hne (String.le_antisymm (String.not_lt.1 hn) (String.not_lt.1 hlt))
        · exact h.1 e' he'

/-- The table with the entry for `k` set to `v`. -/
def insert (t : Table α) (k : String) (v : α) : Table α :=
  ⟨insertEntry k v t.entries, sorted_insertEntry k v t.sorted⟩

/-- The table of a list of entries; of entries with one key the last one stays. -/
def ofList (es : List (String × α)) : Table α :=
  es.foldl (fun t e => t.insert e.1 e.2) empty

/-! ## Looking up -/

/-- The value of the entry for `k`. -/
def get? (t : Table α) (k : String) : Option α := (t.entries.find? (·.1 == k)).map (·.2)

def isEmpty (t : Table α) : Bool := t.entries.isEmpty

/-- The values in the order of their keys. -/
def values (t : Table α) : List α := t.entries.map (·.2)

/-- A table with a value is not empty. -/
theorem isEmpty_of_get?_eq_some {t : Table α} {k : String} {v : α} (h : t.get? k = some v) :
    t.isEmpty = false := by
  unfold get? at h
  unfold isEmpty
  cases hes : t.entries with
  | nil => simp [hes] at h
  | cons e es => rfl

@[simp] theorem get?_empty (k : String) : (empty : Table α).get? k = none := rfl

/-- Inserting changes what is found under its own key, and nothing else. -/
theorem find?_insertEntry (k k' : String) (v : α) (es : List (String × α))
    (h : es.Pairwise (fun a b => a.1 < b.1)) :
    ((insertEntry k v es).find? (·.1 == k')).map (·.2) =
      if k' = k then some v else (es.find? (·.1 == k')).map (·.2) := by
  induction es with
  | nil =>
    by_cases hk : k' = k
    · simp [insertEntry, hk]
    · simp [insertEntry, hk, Ne.symm hk]
  | cons e es ih =>
    rw [List.pairwise_cons] at h
    rw [insertEntry]
    split
    · by_cases hk : k' = k
      · simp [hk]
      · rw [List.find?_cons_of_neg (by simpa using Ne.symm hk), if_neg hk]
    · split
      · next hke =>
        by_cases hk : k' = k
        · simp [hk]
        · rw [List.find?_cons_of_neg (by simpa using Ne.symm hk), if_neg hk,
            List.find?_cons_of_neg (by simpa [← hke] using Ne.symm hk)]
      · next hlt hne =>
        by_cases he : e.1 = k'
        · have hk : k' ≠ k := fun hk => hne (by rw [← hk, he])
          simp [he, hk]
        · rw [List.find?_cons_of_neg (by simpa using he),
            List.find?_cons_of_neg (by simpa using he)]
          exact ih h.2

/-- Looking up after inserting: the entry just set, and the others unchanged. -/
@[simp] theorem get?_insert (t : Table α) (k k' : String) (v : α) :
    (t.insert k v).get? k' = if k' = k then some v else t.get? k' :=
  find?_insertEntry k k' v t.entries t.sorted

/-- A look-up in the table of a list gives the last entry of the list for the key. -/
theorem get?_ofList (es : List (String × α)) (k : String) :
    (ofList es).get? k = (es.reverse.find? (·.1 == k)).map (·.2) := by
  suffices h : ∀ (es : List (String × α)) (t : Table α),
      (es.foldl (fun t e => t.insert e.1 e.2) t).get? k =
        ((es.reverse.find? (·.1 == k)).map (·.2)).or (t.get? k) by
    simpa [ofList] using h es empty
  intro es
  induction es with
  | nil => simp
  | cons e es ih =>
    intro t
    simp only [List.foldl_cons, ih, get?_insert, List.reverse_cons, List.find?_append]
    cases es.reverse.find? (·.1 == k) with
    | some x => simp
    | none =>
      by_cases hk : k = e.1
      · simp [hk]
      · simp [hk, Ne.symm hk]

/-- In the table of a list under a key of its elements, a look-up gives the last element with
that key. -/
theorem get?_ofList_map (key : α → String) (xs : List α) (k : String) :
    (ofList (xs.map fun x => (key x, x))).get? k = (xs.filter (key · == k)).getLast? := by
  rw [get?_ofList, ← List.map_reverse, List.find?_map, Option.map_map, List.getLast?_filter]
  exact Option.map_id'

/-! ## Equality -/

/-- No key has two entries. -/
theorem nodup_keys (t : Table α) : (t.entries.map (·.1)).Nodup := by
  refine List.pairwise_map.2 (t.sorted.imp fun {a b} hlt heq => ?_)
  rw [heq] at hlt
  exact String.lt_irrefl _ hlt

theorem nodup_entries (t : Table α) : t.entries.Nodup :=
  (List.pairwise_map.1 t.nodup_keys).imp fun hne heq => hne (congrArg Prod.fst heq)

/-- Where no key comes twice, the entry that is found is the one that is there. -/
theorem find?_eq_some_iff_mem {es : List (String × α)} (hd : (es.map (·.1)).Nodup) {k : String}
    {v : α} : (es.find? (·.1 == k)).map (·.2) = some v ↔ (k, v) ∈ es := by
  induction es with
  | nil => simp
  | cons e es ih =>
    obtain ⟨hfirst, hrest⟩ := List.nodup_cons.1 hd
    by_cases hk : e.1 = k
    · have hlater : (k, v) ∉ es := fun hmem => hfirst (List.mem_map.2 ⟨(k, v), hmem, hk.symm⟩)
      subst hk
      simp [hlater, Prod.ext_iff, eq_comm]
    · have hne : (k, v) ≠ e := fun heq => hk (heq ▸ rfl)
      simp [hk, hne, ih hrest]

/-- The entries of a table are what is found in it. -/
theorem mem_entries_iff {t : Table α} {k : String} {v : α} :
    (k, v) ∈ t.entries ↔ t.get? k = some v :=
  (find?_eq_some_iff_mem t.nodup_keys).symm

/-- A table is what look-ups find in it. -/
theorem ext_get? {t t' : Table α} (h : ∀ k, t.get? k = t'.get? k) : t = t' := by
  have hmem : ∀ e, e ∈ t.entries ↔ e ∈ t'.entries := fun (k, v) => by
    rw [mem_entries_iff, mem_entries_iff, h k]
  have hperm : t.entries.Perm t'.entries :=
    (List.perm_ext_iff_of_nodup t.nodup_entries t'.nodup_entries).2 hmem
  have hentries : t.entries = t'.entries :=
    hperm.eq_of_pairwise (fun a b _ _ hab hba => absurd hba (String.lt_asymm hab))
      t.sorted t'.sorted
  cases t
  cases t'
  congr

/-- In the table of a list, every entry is one of the list. -/
theorem mem_of_mem_ofList {es : List (String × α)} {e : String × α}
    (h : e ∈ (ofList es).entries) : e ∈ es := by
  obtain ⟨k, v⟩ := e
  rw [mem_entries_iff, get?_ofList] at h
  obtain ⟨e, he, rfl⟩ := Option.map_eq_some_iff.mp h
  obtain rfl : e.1 = k := by simpa using List.find?_some he
  exact List.mem_reverse.mp (List.mem_of_find?_eq_some he)

/-- Where no key is given twice, a value is found just if its entry was given. -/
theorem get?_ofList_eq_some_iff {es : List (String × α)} (hd : (es.map (·.1)).Nodup) {k : String}
    {v : α} : (ofList es).get? k = some v ↔ (k, v) ∈ es := by
  have hkeys : (es.reverse.map (·.1)).Nodup :=
    ((List.reverse_perm es).map _).nodup_iff.2 hd
  rw [get?_ofList, find?_eq_some_iff_mem hkeys, List.mem_reverse]

/-- Where no key comes twice, the order of the entries does not matter. -/
theorem ofList_perm {es es' : List (String × α)} (h : es.Perm es') (hd : (es.map (·.1)).Nodup) :
    ofList es = ofList es' := by
  have hd' : (es'.map (·.1)).Nodup := (h.map _).nodup_iff.1 hd
  refine ext_get? fun k => Option.ext fun v => ?_
  rw [get?_ofList_eq_some_iff hd, get?_ofList_eq_some_iff hd', h.mem_iff]

end Table

end StackPlaybook
