import StoryGraph.Proofs.Document.Recorded
import StoryGraph.Proofs.Shape.Accepted

/-!
# Derived keys

The connections at the ports of a node are written beside it and never read.
Documents that differ in nothing else are read alike: as the same graph and
context, or with the same error.
-/

namespace StoryGraph

namespace Table

variable {α : Type}

/-- The entries whose names are kept. -/
def filter (keeps : String → Bool) (table : Table α) : Table α :=
  ⟨table.entries.filter fun entry => keeps entry.1,
    ((List.filter_sublist).map Prod.fst).nodup table.distinct⟩

theorem filter_insertEntry (keeps : String → Bool) (name : String) (value : α)
    (entries : List (String × α)) :
    (insertEntry name value entries).filter (fun entry => keeps entry.1) =
      if keeps name then
        insertEntry name value (entries.filter fun entry => keeps entry.1)
      else entries.filter fun entry => keeps entry.1 := by
  induction entries with
  | nil => cases hkeeps : keeps name <;> simp [insertEntry, hkeeps]
  | cons entry rest ih =>
    obtain ⟨key, old⟩ := entry
    by_cases hkey : key = name
    · subst hkey
      cases hkeeps : keeps key <;> simp [insertEntry, hkeeps]
    · rw [insertEntry, if_neg hkey, List.filter_cons, List.filter_cons, ih]
      cases hkeeps : keeps key <;> cases keeps name <;> simp [insertEntry, hkey]

theorem filter_insert (keeps : String → Bool) (table : Table α) (name : String)
    (value : α) :
    (table.insert name value).filter keeps =
      if keeps name then (table.filter keeps).insert name value
      else table.filter keeps := by
  apply eq_of_entries
  have hentries := filter_insertEntry keeps name value table.entries
  split <;> simp_all [filter, insert]

theorem filter_foldl_insert (keeps : String → Bool)
    (entries : List (String × α)) (table : Table α) :
    (entries.foldl (fun table entry => table.insert entry.1 entry.2)
      table).filter keeps =
      (entries.filter fun entry => keeps entry.1).foldl
        (fun table entry => table.insert entry.1 entry.2)
        (table.filter keeps) := by
  induction entries generalizing table with
  | nil => rfl
  | cons entry entries ih =>
    rw [List.foldl_cons, ih, filter_insert, List.filter_cons]
    split <;> rfl

theorem ofList_filter (keeps : String → Bool) (entries : List (String × α)) :
    ofList (entries.filter fun entry => keeps entry.1) =
      (ofList entries).filter keeps :=
  (filter_foldl_insert keeps entries empty).symm

theorem filter_filter (keeps : String → Bool) (table : Table α) :
    (table.filter keeps).filter keeps = table.filter keeps := by
  apply eq_of_entries
  simp [filter, List.filter_filter]

end Table

namespace Checked

variable {α β γ : Type}

theorem map_apply (transform : β → γ) (function : Checked (α → β))
    (argument : Checked α) :
    (function.apply argument).map transform =
      (function.map (transform ∘ ·)).apply argument := by
  cases function <;> cases argument <;> rfl

theorem apply_map (function : Checked (β → γ)) (transform : α → β)
    (argument : Checked α) :
    function.apply (argument.map transform) =
      (function.map (· ∘ transform)).apply argument := by
  cases function <;> cases argument <;> rfl

theorem map_under (transform : α → β) (step : Step) (checked : Checked α) :
    (checked.under step).map transform =
      (checked.map transform).under step := by
  cases checked <;> rfl

theorem all_map (transform : α → β) (parts : List (Checked α)) :
    (all parts).map (List.map transform) =
      all (parts.map (Checked.map transform)) := by
  induction parts with
  | nil => rfl
  | cons part parts ih =>
    rw [List.map_cons, all, all, ← ih, map_apply, map_map, apply_map, map_map,
      map_map]
    rfl

end Checked

namespace GraphDocument

/-! ## Without derived keys -/

def isOwnKey (key : String) : Bool := !derivedKeys.contains key

/-- The object of a node without its derived keys. -/
def bareObject : Value → Value
  | .dict fields => .dict (fields.filter fun field => isOwnKey field.1)
  | value => value

def bareEntry : Value → Value
  | .list [id, object] => .list [id, bareObject object]
  | value => value

def bareNodes : Value → Value
  | .list entries => .list (entries.map bareEntry)
  | value => value

/-- The fields of a document without the derived keys of its nodes. -/
def bareFields (fields : List (String × Value)) : List (String × Value) :=
  fields.map fun field =>
    (field.1, if field.1 = "nodes" then bareNodes field.2 else field.2)

/-- What has been checked of a node, without its derived keys. -/
def bareTable (entry : String × Table Value) : String × Table Value :=
  (entry.1, entry.2.filter isOwnKey)

def bare (document : GraphDocument) : GraphDocument :=
  { document with nodes := document.nodes.map bareTable }

/-! ## Checking -/

theorem lookup_bareFields_of_ne {key : String} (hkey : key ≠ "nodes")
    (fields : List (String × Value)) :
    (bareFields fields).lookup key = fields.lookup key := by
  induction fields with
  | nil => rfl
  | cons field fields ih =>
    rw [bareFields, List.map_cons, List.lookup_cons, List.lookup_cons,
      ← bareFields, ih]
    by_cases hfield : key = field.1
    · rw [← hfield, if_neg hkey]
    · rw [beq_eq_false_iff_ne.mpr hfield]

theorem lookup_bareFields_nodes (fields : List (String × Value)) :
    (bareFields fields).lookup "nodes" =
      (fields.lookup "nodes").map bareNodes := by
  induction fields with
  | nil => rfl
  | cons field fields ih =>
    rw [bareFields, List.map_cons, List.lookup_cons, List.lookup_cons,
      ← bareFields, ih]
    by_cases hfield : "nodes" = field.1
    · rw [← hfield, if_pos rfl]
      rfl
    · rw [beq_eq_false_iff_ne.mpr hfield]

theorem names_bareFields (fields : List (String × Value)) :
    names (bareFields fields) = names fields := by
  simp [names, bareFields]

/-- A check that finds the same with and without derived keys, up to these
keys. -/
def Overlooks {α : Type} (check : Check α) (bareValue : Value → Value)
    (bareResult : α → α) : Prop :=
  ∀ value, (check (bareValue value)).map bareResult =
    (check value).map bareResult

theorem overlooks_object :
    Overlooks (.table .any) bareObject fun table => table.filter isOwnKey := by
  intro value
  cases value with
  | dict fields =>
    rw [bareObject, Check.table_any, Check.table_any, Checked.map, Checked.map,
      Table.ofList_filter, Table.filter_filter]
  | _ => rfl

theorem overlooks_entry :
    Overlooks (.pair .text (.table .any)) bareEntry bareTable := by
  intro value
  unfold bareEntry
  split
  · next id object =>
    -- Only the object of the entry may change.
    have hpair :
        ∀ object,
          (Check.pair .text (.table .any) (.list [id, object])).map bareTable =
            .apply (((Check.text id).under (.index 0)).map Prod.mk)
              (((Check.table .any object).map fun table =>
                table.filter isOwnKey).under (.index 1)) := by
      intro object
      rw [← Checked.map_under, Checked.apply_map, Checked.map_map]
      exact (Checked.map_apply _ _ _).trans (by rw [Checked.map_map]; rfl)
    rw [hpair, hpair, overlooks_object object]
  · rfl

theorem overlooks_nodes :
    Overlooks (.list (.pair .text (.table .any))) bareNodes
      (List.map bareTable) := by
  intro value
  cases value with
  | list entries =>
    have hlist :
        ∀ entries,
          (Check.list (.pair .text (.table .any)) (.list entries)).map
            (List.map bareTable) =
              .all (entries.mapIdx fun position entry =>
                ((Check.pair .text (.table .any) entry).map bareTable).under
                (.index position)) := by
      intro entries
      refine (Checked.all_map _ _).trans (congrArg Checked.all ?_)
      exact List.ext_getElem (by simp) (by simp [Checked.map_under])
    rw [bareNodes, hlist, hlist]
    exact congrArg Checked.all
      (List.ext_getElem (by simp) (by simp [overlooks_entry _]))
  | _ => rfl

theorem nodes_bareFields (fields : List (String × Value)) :
    (FieldName.withDefault (.plain "nodes")
      (.list (.pair .text (.table .any))) []
        (bareFields fields)).map (List.map bareTable) =
      (FieldName.withDefault (.plain "nodes")
        (.list (.pair .text (.table .any))) []
        fields).map (List.map bareTable) := by
  simp only [FieldName.withDefault, FieldName.check, find?_plain,
    lookup_bareFields_nodes]
  cases fields.lookup "nodes" with
  | none => rfl
  | some value =>
    simp only [Option.map_some, Checked.map_under, overlooks_nodes value]

theorem withDefault_bareFields {α : Type} {key : String} (hkey : key ≠ "nodes")
    (fieldCheck : Check α) (fallback : α) (fields : List (String × Value)) :
    FieldName.withDefault (.plain key) fieldCheck fallback (bareFields fields) =
      FieldName.withDefault (.plain key) fieldCheck fallback fields := by
  simp only [FieldName.withDefault, FieldName.check, find?_plain,
    lookup_bareFields_of_ne hkey]

theorem required_bareFields {α : Type} {key : String} (hkey : key ≠ "nodes")
    (fieldCheck : Check α) (fields : List (String × Value)) :
    FieldName.required (.plain key) fieldCheck (bareFields fields) =
      FieldName.required (.plain key) fieldCheck fields := by
  simp only [FieldName.required, FieldName.check, find?_plain,
    lookup_bareFields_of_ne hkey]

theorem read_bareFields (fields : List (String × Value)) :
    (read (bareFields fields)).map bare = (read fields).map bare := by
  -- Of the seven fields only the fourth may change.
  have hread : ∀ fields, (read fields).map bare =
      mk <$> FieldName.withDefault (.plain "version") .text "1.0" fields
        <*> FieldName.required (.plain "id") .filled fields
        <*> FieldName.withDefault (.plain "name") .text "" fields
        <*> (FieldName.withDefault (.plain "nodes")
          (.list (.pair .text (.table .any))) []
          fields).map (List.map bareTable)
        <*> FieldName.withDefault (.plain "connections")
          (.list Connection.check) [] fields
        <*> FieldName.withDefault (.plain "variables")
          (.list (.pair .text .any)) [] fields
        <*> FieldName.withDefault (.plain "flags")
          (.list (.pair .text .boolean)) [] fields := by
    intro fields
    simp only [read, Checked.fmap_eq, Checked.seq_eq, Checked.map_apply,
      Checked.apply_map, Checked.map_map]
    rfl
  rw [hread, hread, nodes_bareFields]
  simp only [withDefault_bareFields (by decide : "version" ≠ "nodes"),
    required_bareFields (by decide : "id" ≠ "nodes"),
    withDefault_bareFields (by decide : "name" ≠ "nodes"),
    withDefault_bareFields (by decide : "connections" ≠ "nodes"),
    withDefault_bareFields (by decide : "variables" ≠ "nodes"),
    withDefault_bareFields (by decide : "flags" ≠ "nodes")]

/-- The keys of a document. -/
def keys : List String :=
  ["version", "id", "name", "nodes", "connections", "variables", "flags"]

theorem known_eq : known = keys.map FieldName.plain := rfl

theorem noOthers_bareFields (fields : List (String × Value)) :
    noOthers known (bareFields fields) = noOthers known fields := by
  have hfound :
      ∀ key, ((FieldName.plain key).find? (bareFields fields)).map Prod.fst =
        ((FieldName.plain key).find? fields).map Prod.fst := by
    intro key
    rw [find?_plain, find?_plain]
    by_cases hkey : key = "nodes"
    · rw [hkey, lookup_bareFields_nodes]
      cases fields.lookup "nodes" <;> rfl
    · rw [lookup_bareFields_of_ne hkey]
  have hused :
      (known.filterMap fun name =>
        (name.find? (bareFields fields)).map Prod.fst) =
          known.filterMap fun name => (name.find? fields).map Prod.fst := by
    apply List.filterMap_congr
    intro name hname
    obtain ⟨key, -, rfl⟩ := List.mem_map.mp (known_eq ▸ hname)
    exact hfound key
  rw [noOthers, noOthers, unknownKeys, unknownKeys, hused, names_bareFields]

/-- Checking finds the same with and without derived keys. -/
theorem check_bareFields (fields : List (String × Value)) :
    (check (.dict (bareFields fields))).map bare =
      (check (.dict fields)).map bare := by
  have hcheck : ∀ fields, (check (.dict fields)).map bare =
      (read fields).map bare <* noOthers known fields := by
    intro fields
    rw [check, Check.record]
    cases read fields <;> cases noOthers known fields <;> rfl
  rw [hcheck, hcheck, read_bareFields, noOthers_bareFields]

/-! ## Reading -/

theorem nodeFields_filter (entryId : String) (fields : List (String × Value)) :
    nodeFields entryId (fields.filter fun field => isOwnKey field.1) =
      nodeFields entryId fields := by
  simp only [nodeFields, isOwnKey, List.filter_filter, Bool.and_self]

theorem readNodes_bareTable (entries : List (String × Table Value)) :
    readNodes (entries.map bareTable) = readNodes entries := by
  induction entries with
  | nil => rfl
  | cons entry entries ih =>
    have hnode : readNode entry.1 (entry.2.filter isOwnKey).entries =
        readNode entry.1 entry.2.entries := by
      rw [readNode, readNode, Table.filter, nodeFields_filter]
    rw [List.map_cons, bareTable, readNodes, hnode, ih]
    rfl

theorem toGraph_bare (document : GraphDocument) (registry : Registry) :
    document.bare.toGraph registry = document.toGraph registry := by
  rw [toGraph, bare, readNodes_bareTable]
  rfl

end GraphDocument

open GraphDocument in
/-- Documents that differ in derived keys only are read alike. -/
theorem decodeGraph_of_bareFields {settings : Settings} {registry : Registry}
    {source other : Json.Source} {fields others : List (String × Value)}
    (hread : source.read = .ok (.dict fields))
    (hother : other.read = .ok (.dict others))
    (hsame : bareFields fields = bareFields others) :
    decodeGraph settings registry source =
      decodeGraph settings registry other := by
  have hobject : readObject source = .ok fields := by rw [readObject, hread]
  have hobjects : readObject other = .ok others := by rw [readObject, hother]
  have hclaimed : claimedVersion fields = claimedVersion others := by
    rw [claimedVersion, claimedVersion, ← lookup_bareFields_of_ne (by decide),
      hsame, lookup_bareFields_of_ne (by decide)]
  have hcheck : (check (.dict fields)).map bare =
      (check (.dict others)).map bare := by
    rw [← check_bareFields, hsame, check_bareFields]
  rw [decodeGraph, decodeGraph, hobject, hobjects]
  simp only [hclaimed]
  cases supportOf (claimedVersion others)
    settings.supportedDocumentVersions with
  | undecided => rfl
  | unsatisfied => rfl
  | faulty fault => rfl
  | satisfied =>
    cases hfirst : check (.dict fields) <;> cases hsecond : check (.dict others)
    all_goals rw [hfirst, hsecond] at hcheck
    case rejected.rejected =>
      cases hcheck
      rfl
    case accepted.accepted document again =>
      have hbare : document.bare = again.bare := Checked.accepted.inj hcheck
      have hgraph : document.toGraph registry = again.toGraph registry := by
        rw [← toGraph_bare, hbare, toGraph_bare]
      have hcontext : document.bare.toContext = again.bare.toContext :=
        congrArg toContext hbare
      simp only [hgraph]
      exact congrArg (fun context => (again.toGraph registry).map fun graph =>
        (graph, context))
        hcontext
    all_goals cases hcheck

end StoryGraph
