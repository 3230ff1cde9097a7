import StoryGraph.Document
import StoryGraph.Proofs.Document.RoundTrip
import StoryGraph.Proofs.Json.Reading
import StoryGraph.Proofs.Timestamp

/-!
# What is read of a stored compiled graph

Every record of a compiled graph is accepted in the form in which it is stored.
What is read is the same compiled graph, with the data of its nodes written as
documents hold them once more.
-/

namespace StoryGraph

namespace CompiledNode

/-- The node as it is read from a stored text. -/
def stored (node : CompiledNode) : CompiledNode :=
  { node with data := node.data.map Value.toData }

theorem check_dump (node : CompiledNode) :
    check node.dump = .accepted node.stored := by
  have hkind : Check.word Kind.ofWord? (.str node.kind.word) =
      .accepted node.kind := by
    simp only [Check.word, Kind.ofWord?_word]
  have hdata : Check.table .any (.dict (node.data.map Value.toData).entries) =
      .accepted (node.data.map Value.toData) := Check.table_map fun _ _ => rfl
  have houtputs : Check.tuple (.tuple .text)
      (.list (node.outputs.map fun targets => .list (targets.map Value.str))) =
        .accepted node.outputs := by
    rw [Check.tuple_map fun targets _ => Check.tuple_texts targets,
      List.map_id']
  have hread : check node.dump =
      (mk <$> (Check.word Kind.ofWord? (.str node.kind.word)).under
        (.key "type")
        <*> (Check.table .any
          (.dict (node.data.map Value.toData).entries)).under (.key "data")
        <*> (Check.tuple (.tuple .text) (.list (node.outputs.map fun targets =>
          .list (targets.map Value.str)))).under (.key "outputs"))
        <* Checked.accepted () := rfl
  rw [hread, hkind, hdata, houtputs]
  rfl

end CompiledNode

theorem Entrypoint.check_dump (entry : Entrypoint) :
    check entry.dump = .accepted entry := rfl

theorem Metadata.check_dump (metadata : Metadata) :
    check (metadata.dump true) = .accepted metadata := by
  have hread : check (metadata.dump true) =
      (mk <$> (Timestamp.check (.str metadata.compiledAt.toText)).under
        (.key "compiledAt") <*> .accepted metadata.version
        <*> (Check.tuple .text (.list (metadata.warnings.map Value.str))).under
        (.key "warnings"))
        <* Checked.accepted () := rfl
  rw [hread, Timestamp.check_toText, Check.tuple_texts]
  rfl

namespace CompiledGraph

/-- The compiled graph as it is read from a stored text. -/
def stored (compiled : CompiledGraph) : CompiledGraph :=
  { compiled with nodes := compiled.nodes.map CompiledNode.stored }

theorem check_documentWith (compiled : CompiledGraph) :
    check (compiled.documentWith true) = .accepted compiled.stored := by
  have hstart :
      Check.optionalText ((compiled.startNode.map Value.str).getD .null) =
        .accepted compiled.startNode := by
    cases compiled.startNode <;> rfl
  have hentrypoints :
      Check.tuple Entrypoint.check
        (.list (compiled.entrypoints.map Entrypoint.dump)) =
          .accepted compiled.entrypoints := by
    rw [Check.tuple_map fun entry _ => entry.check_dump, List.map_id']
  have hnodes :
      Check.table CompiledNode.check
        (.dict (compiled.nodes.map CompiledNode.dump).entries) =
          .accepted compiled.stored.nodes :=
    Check.table_map fun entry _ => entry.2.check_dump
  have hread : check (compiled.documentWith true) =
      (mk <$> .accepted compiled.id
        <*> .accepted compiled.name
        <*> (Check.optionalText
          ((compiled.startNode.map Value.str).getD .null)).under
          (.key "startNode")
        <*> (Check.tuple Entrypoint.check
          (.list (compiled.entrypoints.map Entrypoint.dump))).under
          (.key "entrypoints")
        <*> (Check.table CompiledNode.check
          (.dict (compiled.nodes.map CompiledNode.dump).entries)).under
            (.key "nodes")
        <*> (Metadata.check (compiled.metadata.dump true)).under
        (.key "metadata"))
        <* Checked.accepted () := rfl
  rw [hread, hstart, hentrypoints, hnodes, compiled.metadata.check_dump]
  rfl

/-! ## The stored text -/

/-- A property that holds of all data in the nodes. -/
def AllData (compiled : CompiledGraph) (property : Value → Prop) : Prop :=
  ∀ entry ∈ compiled.nodes.entries, ∀ field ∈ entry.2.data.entries,
    property field.2

instance (compiled : CompiledGraph) (property : Value → Prop)
    [DecidablePred property] : Decidable (compiled.AllData property) :=
  inferInstanceAs (Decidable (∀ entry ∈ compiled.nodes.entries,
    ∀ field ∈ entry.2.data.entries, property field.2))

variable {compiled : CompiledGraph}

open Value in
/-- The document of a compiled graph is plain data, unless a place stands in
it. -/
theorem isPlainData_documentWith
    (hdata : compiled.AllData fun value => value.locationKind? = none) :
    (compiled.documentWith true).isPlainData = true := by
  have hnodes :
      havePlainData (compiled.nodes.map CompiledNode.dump).entries = true := by
    rw [havePlainData_eq_all, List.all_eq_true, Table.entries_map]
    intro field hmem
    obtain ⟨entry, hentry, rfl⟩ := List.mem_map.mp hmem
    have hfields : havePlainData (entry.2.data.map toData).entries = true := by
      rw [havePlainData_eq_all, List.all_eq_true, Table.entries_map]
      intro field hmem
      obtain ⟨original, horiginal, rfl⟩ := List.mem_map.mp hmem
      exact original.2.isPlainData_toData
        (hdata entry hentry original horiginal)
    simp [CompiledNode.dump, isPlainData, havePlainData, hfields,
      arePlainData_eq_all]
  have hstart :
      ((compiled.startNode.map Value.str).getD .null).isPlainData = true := by
    cases compiled.startNode <;> rfl
  simp [documentWith, isPlainData, havePlainData, hstart, hnodes,
    arePlainData_eq_all, Entrypoint.dump, Metadata.dump]

open Value in
theorem hasDistinctKeys_documentWith
    (hdata : compiled.AllData fun value => value.hasDistinctKeys = true) :
    (compiled.documentWith true).hasDistinctKeys = true := by
  have hnodes :
      fieldsHaveDistinctKeys (compiled.nodes.map CompiledNode.dump).entries =
        true := by
    rw [fieldsHaveDistinctKeys_eq_all, List.all_eq_true, Table.entries_map]
    intro field hmem
    obtain ⟨entry, hentry, rfl⟩ := List.mem_map.mp hmem
    have hfields :
        fieldsHaveDistinctKeys (entry.2.data.map toData).entries = true := by
      rw [fieldsHaveDistinctKeys_eq_all, List.all_eq_true, Table.entries_map]
      intro field hmem
      obtain ⟨original, horiginal, rfl⟩ := List.mem_map.mp hmem
      exact original.2.hasDistinctKeys_toData
        (hdata entry hentry original horiginal)
    simp [CompiledNode.dump, hasDistinctKeys, fieldsHaveDistinctKeys, hfields,
      haveDistinctKeys_eq_all, (entry.2.data.map toData).distinct]
  have hstart :
      ((compiled.startNode.map Value.str).getD .null).hasDistinctKeys =
        true := by
    cases compiled.startNode <;> rfl
  simp [documentWith, hasDistinctKeys, fieldsHaveDistinctKeys, hstart, hnodes,
    (compiled.nodes.map CompiledNode.dump).distinct, haveDistinctKeys_eq_all,
    Entrypoint.dump,
    Metadata.dump]

/-- Every integer in the data has a numeral. -/
def IsSpellable (compiled : CompiledGraph) : Prop :=
  compiled.AllData fun value => value.isSpellable = true

instance (compiled : CompiledGraph) : Decidable compiled.IsSpellable :=
  inferInstanceAs (Decidable (compiled.AllData _))

open Value in
theorem isSpellable_documentWith :
    (compiled.documentWith true).isSpellable = true ↔ compiled.IsSpellable := by
  have hnode (node : CompiledNode) : node.dump.isSpellable = true ↔
      ∀ field ∈ node.data.entries, field.2.isSpellable = true := by
    have hdata : haveSpellable (node.data.map toData).entries = true ↔
        ∀ field ∈ node.data.entries, field.2.isSpellable = true := by
      simp [haveSpellable_eq_all, Table.entries_map, isSpellable_toData]
    have houtputs : areSpellable (node.outputs.map fun targets =>
        .list (targets.map .str)) = true := by
      simp [isSpellable, areSpellable_eq_all]
    simpa [CompiledNode.dump, isSpellable, haveSpellable, houtputs] using hdata
  have hstart :
      ((compiled.startNode.map Value.str).getD .null).isSpellable = true := by
    cases compiled.startNode <;> rfl
  have hnodes : haveSpellable (compiled.nodes.map CompiledNode.dump).entries =
      true ↔ compiled.IsSpellable := by
    simp [haveSpellable_eq_all, Table.entries_map, hnode, IsSpellable, AllData]
  simpa [documentWith, isSpellable, haveSpellable, hstart, areSpellable_eq_all,
    Entrypoint.dump, Metadata.dump] using hnodes

section Written

variable (hlocations : compiled.AllData fun value => value.locationKind? = none)
  (hkeys : compiled.AllData fun value => value.hasDistinctKeys = true)
  {settings : Settings}

include hlocations hkeys

/-- What is read of the stored text of a compiled graph. -/
theorem decodeCompiled_write (hspellable : compiled.IsSpellable)
    (hversion : supportOf compiled.metadata.version
      settings.supportedCompiledVersions = .satisfied) :
    decodeCompiled settings
      (.text (Json.write .stored (compiled.documentWith true))) =
      .ok compiled.stored := by
  obtain ⟨fields, hfields, hclaimed⟩ : ∃ fields,
      compiled.documentWith true = .dict fields ∧
        claimedCompiledVersion fields = compiled.metadata.version :=
          ⟨_, rfl, rfl⟩
  have hobject :
      readObject (.text (Json.write .stored (compiled.documentWith true))) =
        .ok fields := by
    rw [readObject, Json.read_write (isPlainData_documentWith hlocations)
      (hasDistinctKeys_documentWith hkeys)
      (isSpellable_documentWith.mpr hspellable),
      hfields]
  have hcheck : CompiledGraph.check (.dict fields) =
      .accepted compiled.stored := by
    rw [← hfields, check_documentWith]
  rw [decodeCompiled, hobject]
  simp only [hclaimed, hversion, hcheck]

/-- A stored text with an integer that has no numeral is not read. -/
theorem decodeCompiled_write_of_not_isSpellable
    (hspellable : ¬ compiled.IsSpellable) :
    ∃ digits,
      decodeCompiled settings
        (.text (Json.write .stored (compiled.documentWith true))) =
        .error (.numeral (.oversized digits)) := by
  obtain ⟨digits, hread⟩ := Json.read_write_of_not_isSpellable
    (isPlainData_documentWith hlocations) (hasDistinctKeys_documentWith hkeys)
    (eq_false_of_ne_true (mt isSpellable_documentWith.mp hspellable))
  refine ⟨digits, ?_⟩
  rw [decodeCompiled, readObject, hread]
  rfl

end Written

end CompiledGraph

end StoryGraph
