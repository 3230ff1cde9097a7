import StoryGraph.Table

/-!
# Tables of distinct names

A list whose names are distinct is itself the content of the table that is
made from it.  What a table finds does not depend on the order of its entries,
so that they may be sorted by their names.
-/

namespace StoryGraph

namespace Table

variable {α : Type}

theorem eq_of_entries {first second : Table α}
    (hentries : first.entries = second.entries) : first = second := by
  cases first
  cases second
  cases hentries
  rfl

theorem entries_map {β : Type} (transform : α → β) (table : Table α) :
    (table.map transform).entries =
      table.entries.map fun entry => (entry.1, transform entry.2) := rfl

theorem map_self (table : Table α) : (table.map fun value => value) = table :=
  eq_of_entries (List.map_id _)

theorem find?_map {β : Type} (transform : α → β) (table : Table α)
    (name : String) :
    (table.map transform).find? name = (table.find? name).map transform := by
  rw [find?, find?, entries_map]
  induction table.entries with
  | nil => rfl
  | cons entry entries ih =>
    rw [List.map_cons, List.lookup_cons, List.lookup_cons, ih]
    split <;> rfl

theorem map_eq_self_iff {transform : α → α} {table : Table α} :
    table.map transform = table ↔
      ∀ entry ∈ table.entries, transform entry.2 = entry.2 := by
  have hentries :
      table.map transform = table ↔
        table.entries.map (fun entry => (entry.1, transform entry.2)) =
          table.entries.map id := by
    rw [List.map_id, ← entries_map]
    exact ⟨congrArg entries, eq_of_entries⟩
  rw [hentries, List.map_inj_left]
  exact forall₂_congr fun entry _ =>
    ⟨congrArg Prod.snd, fun hsame => by rw [hsame, id]⟩

theorem insertEntry_of_not_mem {name : String} {value : α}
    {entries : List (String × α)} (hnew : name ∉ names entries) :
    insertEntry name value entries = entries ++ [(name, value)] := by
  induction entries with
  | nil => rfl
  | cons entry rest ih =>
    obtain ⟨first, old⟩ := entry
    simp only [names, List.map_cons, List.mem_cons, not_or] at hnew
    rw [insertEntry, if_neg (Ne.symm hnew.1), ih hnew.2, List.cons_append]

/-- A new value for a name that is there keeps the names. -/
theorem names_insertEntry_of_mem {name : String} {entries : List (String × α)}
    (hmem : name ∈ names entries) (value : α) :
    names (insertEntry name value entries) = names entries := by
  induction entries with
  | nil => cases hmem
  | cons entry rest ih =>
    obtain ⟨first, old⟩ := entry
    by_cases hfirst : first = name
    · simp [insertEntry, hfirst, names]
    · have hrest : name ∈ names rest := by
        rw [names, List.map_cons, List.mem_cons] at hmem
        exact hmem.resolve_left (Ne.symm hfirst)
      have hkept : (insertEntry name value rest).map Prod.fst =
          rest.map Prod.fst :=
        ih hrest
      simp [insertEntry, hfirst, names, hkept]

theorem entries_foldl_insert {entries : List (String × α)} {table : Table α}
    (hdistinct : (names (table.entries ++ entries)).Nodup) :
    (entries.foldl (fun table entry => table.insert entry.1 entry.2)
      table).entries =
      table.entries ++ entries := by
  induction entries generalizing table with
  | nil => simp
  | cons entry rest ih =>
    have hnew : entry.1 ∉ names table.entries := by
      rw [names, List.map_append, List.nodup_append] at hdistinct
      intro hmem
      exact hdistinct.2.2 entry.1 hmem entry.1 (by simp) rfl
    have hinsert : (table.insert entry.1 entry.2).entries =
        table.entries ++ [entry] :=
      insertEntry_of_not_mem hnew
    rw [List.foldl_cons, ih]
    · rw [hinsert, List.append_assoc, List.singleton_append]
    · rwa [hinsert, List.append_assoc, List.singleton_append]

theorem entries_ofList {entries : List (String × α)}
    (hdistinct : (names entries).Nodup) : (ofList entries).entries = entries :=
  entries_foldl_insert hdistinct

/-- A table made from items under distinct keys finds each item under its
key. -/
theorem find?_ofList_map {β : Type} {items : List β} {key : β → String}
    {content : β → α} (hdistinct : (items.map key).Nodup) (name : String) :
    (ofList (items.map fun item => (key item, content item))).find? name =
      (items.find? (key · == name)).map content := by
  have hnames :
      (names (items.map fun item => (key item, content item))).Nodup := by
    simpa [names, List.map_map, Function.comp_def] using hdistinct
  rw [find?, entries_ofList hnames]
  clear hdistinct hnames
  induction items with
  | nil => rfl
  | cons item rest ih =>
    rw [List.map_cons, List.lookup_cons, List.find?_cons, ih, Bool.beq_comm]
    cases key item == name <;> rfl

/-! ## The order of the entries -/

theorem lookup_eq_some_iff_mem {entries : List (String × α)}
    (hdistinct : (names entries).Nodup) {name : String} {value : α} :
    entries.lookup name = some value ↔ (name, value) ∈ entries := by
  induction entries with
  | nil => simp
  | cons entry rest ih =>
    obtain ⟨key, first⟩ := entry
    have hparts := List.nodup_cons.mp hdistinct
    by_cases hkey : name = key
    · subst hkey
      have habsent : (name, value) ∉ rest := by
        intro hmem
        have hrepeated : name ∈ names rest := List.mem_map.mpr ⟨_, hmem, rfl⟩
        exact hparts.1 hrepeated
      simp [habsent, eq_comm]
    · have hbeq : (name == key) = false := by simpa using hkey
      simp [List.lookup_cons, hbeq, hkey, ih hparts.2]

theorem lookup_eq_of_perm {firsts seconds : List (String × α)}
    (hdistinct : (names firsts).Nodup) (hperm : firsts.Perm seconds)
    (name : String) : firsts.lookup name = seconds.lookup name := by
  have hother : (names seconds).Nodup :=
    (hperm.map Prod.fst).nodup_iff.mp hdistinct
  apply Option.ext
  intro value
  rw [lookup_eq_some_iff_mem hdistinct, lookup_eq_some_iff_mem hother,
    hperm.mem_iff]

/-- The same table in the order of its names. -/
def sorted (table : Table α) : Table α :=
  ⟨table.entries.mergeSort (·.1 ≤ ·.1),
    ((List.mergeSort_perm _ _).map Prod.fst).nodup_iff.mpr table.distinct⟩

theorem find?_sorted (table : Table α) (name : String) :
    table.sorted.find? name = table.find? name :=
  lookup_eq_of_perm table.sorted.distinct (List.mergeSort_perm _ _) name

theorem sorted_sorted (table : Table α) :
    table.sorted.sorted = table.sorted := by
  apply eq_of_entries
  apply List.mergeSort_of_pairwise
  apply List.pairwise_mergeSort
  · intro first second third hfirst hsecond
    rw [decide_eq_true_eq] at *
    exact String.le_trans hfirst hsecond
  · intro first second
    simpa only [Bool.or_eq_true, decide_eq_true_eq]
      using String.le_total first.1 second.1

theorem sorted_map {β : Type} (transform : α → β) (table : Table α) :
    (table.map transform).sorted = table.sorted.map transform := by
  apply eq_of_entries
  have hmap :=
    @List.map_mergeSort _ _ (fun first second => decide (first.1 ≤ second.1))
      (fun first second => decide (first.1 ≤ second.1))
      (fun entry : String × α => (entry.1, transform entry.2)) table.entries
        fun _ _ _ _ => rfl
  exact hmap.symm

theorem ofList_entries (table : Table α) : ofList table.entries = table :=
  eq_of_entries (entries_ofList table.distinct)

end Table

end StoryGraph
