/-!
# Tables

A table assigns values to distinct names and keeps them in the order in which
the names were first inserted.  Its view is the partial function `find?`.
-/

namespace StoryGraph

/-- The names of a list of named values. -/
abbrev names {α : Type} (entries : List (String × α)) : List String :=
  entries.map Prod.fst

structure Table (α : Type) where
  entries : List (String × α)
  distinct : (names entries).Nodup
  deriving DecidableEq

namespace Table

variable {α β : Type}

def empty : Table α := ⟨[], List.nodup_nil⟩

instance : Inhabited (Table α) := ⟨empty⟩

def find? (table : Table α) (name : String) : Option α :=
  table.entries.lookup name

def contains (table : Table α) (name : String) : Bool :=
  table.entries.any (·.1 == name)

def keys (table : Table α) : List String := names table.entries

def size (table : Table α) : Nat := table.entries.length

/-- Replaces the value of a name, or appends the name. -/
def insertEntry (name : String) (value : α) :
    List (String × α) → List (String × α)
  | [] => [(name, value)]
  | (key, old) :: rest =>
    if key = name then (key, value) :: rest
    else (key, old) :: insertEntry name value rest

theorem mem_names_insertEntry {name key : String} {value : α}
    {entries : List (String × α)} :
    key ∈ names (insertEntry name value entries) ↔
      key = name ∨ key ∈ names entries := by
  induction entries with
  | nil => simp [insertEntry]
  | cons entry rest ih =>
    obtain ⟨first, old⟩ := entry
    by_cases hfirst : first = name
    · subst hfirst
      simp [insertEntry]
    · have hrest : key ∈ List.map Prod.fst (insertEntry name value rest) ↔
          key = name ∨ key ∈ List.map Prod.fst rest := ih
      simp only [insertEntry, hfirst, if_false, names, List.map_cons,
        List.mem_cons, hrest]
      constructor
      · rintro (hkey | hkey | hkey) <;> simp [hkey]
      · rintro (hkey | hkey | hkey) <;> simp [hkey]

theorem nodup_insertEntry {name : String} {value : α}
    {entries : List (String × α)} (hdistinct : (names entries).Nodup) :
    (names (insertEntry name value entries)).Nodup := by
  induction entries with
  | nil => simp [insertEntry, names]
  | cons entry rest ih =>
    obtain ⟨first, old⟩ := entry
    have hparts := List.nodup_cons.mp hdistinct
    by_cases hfirst : first = name
    · simpa [insertEntry, hfirst, names] using hdistinct
    · have hnotin : first ∉ names (insertEntry name value rest) := by
        rw [mem_names_insertEntry]
        rintro (hname | hrest)
        · exact hfirst hname
        · exact hparts.1 hrest
      have hcons := List.nodup_cons.mpr ⟨hnotin, ih hparts.2⟩
      simpa [insertEntry, hfirst, names] using hcons

def insert (table : Table α) (name : String) (value : α) : Table α :=
  ⟨insertEntry name value table.entries, nodup_insertEntry table.distinct⟩

/-- The table of a list of named values; a repeated name keeps its first place
and its last value. -/
def ofList (entries : List (String × α)) : Table α :=
  entries.foldl (fun table entry => table.insert entry.1 entry.2) empty

def map (transform : α → β) (table : Table α) : Table β :=
  ⟨table.entries.map fun entry => (entry.1, transform entry.2), by
    simpa [names, List.map_map, Function.comp_def] using table.distinct⟩

/-- Two tables with the same names and values, in any order. -/
def sameContent [BEq α] (left right : Table α) : Bool :=
  left.size == right.size &&
    left.entries.all fun entry => right.find? entry.1 == some entry.2

theorem lookup_insertEntry (name key : String) (value : α)
    (entries : List (String × α)) :
    (insertEntry name value entries).lookup key =
      if key = name then some value else entries.lookup key := by
  induction entries with
  | nil =>
    by_cases hkey : key = name
    · simp [insertEntry, hkey]
    · have hbeq : (key == name) = false := by simpa using hkey
      simp [insertEntry, List.lookup_cons, hbeq, hkey]
  | cons entry rest ih =>
    obtain ⟨first, old⟩ := entry
    by_cases hfirst : first = name
    · subst hfirst
      by_cases hkey : key = first
      · simp [insertEntry, hkey]
      · have hbeq : (key == first) = false := by simpa using hkey
        simp [insertEntry, List.lookup_cons, hbeq, hkey]
    · by_cases hkey : key = first
      · subst hkey
        simp [insertEntry, hfirst]
      · have hbeq : (key == first) = false := by simpa using hkey
        simp only [insertEntry, hfirst, if_false, List.lookup_cons, hbeq]
        exact ih

theorem find?_insert (table : Table α) (name key : String) (value : α) :
    (table.insert name value).find? key = if key = name then some value
      else table.find? key :=
  lookup_insertEntry name key value table.entries

end Table

end StoryGraph
