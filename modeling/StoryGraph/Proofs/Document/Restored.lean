import StoryGraph.Proofs.Document.Reloaded

/-!
# What storing keeps

A compiled graph with plain data is restored from its stored text as it was, in
every order, whether a graph was compiled to it or it was made by hand.  The
limits are how deeply its data are nested and how long its integers are.
-/

namespace StoryGraph

/-- Plain data are no locations. -/
theorem Value.locationKind?_of_isPlainData {value : Value}
    (hplain : value.isPlainData = true) : value.locationKind? = none := by
  rw [← value.toData_of_isPlainData hplain]
  exact value.locationKind?_toData

namespace CompiledGraph

variable {compiled : CompiledGraph}

/-- No value in the data is nested more deeply than documents can be. -/
def IsShallow (compiled : CompiledGraph) : Prop :=
  compiled.AllData fun value => value.depth ≤ Value.depthLimit

theorem isWritable_iff : compiled.isWritable = true ↔ compiled.IsShallow := by
  simp [isWritable, CompiledNode.isWritable, IsShallow, AllData,
    Value.isWritable]

theorem storedText_of_not_isShallow (hdeep : ¬ compiled.IsShallow) :
    compiled.storedText = .error .storedTooDeep :=
  if_neg fun hwritable => hdeep (isWritable_iff.mp hwritable)

theorem locationKind?_of_allPlain
    (hplain : compiled.AllData fun value => value.isPlainData = true) :
    compiled.AllData fun value => value.locationKind? = none :=
  fun entry hentry field hfield => Value.locationKind?_of_isPlainData
    (hplain entry hentry field hfield)

/-- Plain data are restored as they were. -/
theorem decodeCompiled_of_isPlainData
    (hplain : compiled.AllData fun value => value.isPlainData = true)
    (hkeys : compiled.AllData fun value => value.hasDistinctKeys = true)
    (hspellable : compiled.IsSpellable) {settings : Settings}
    (hversion : supportOf compiled.metadata.version
      settings.supportedCompiledVersions = .satisfied) :
    decodeCompiled settings
      (.text (Json.write .stored (compiled.documentWith true))) =
      .ok compiled := by
  rw [decodeCompiled_write (locationKind?_of_allPlain hplain) hkeys hspellable
    hversion, stored_eq_self_iff.mpr hplain]

end CompiledGraph

/-- A compiled graph with plain data under a supported version has a stored text
exactly if its data are not nested too deeply.  If every integer in the data has
a numeral, the text is then read as the very same compiled graph, whose stored
text is the same; otherwise it is not read. -/
theorem decodeCompiled_storedText {settings : Settings}
    {compiled : CompiledGraph}
    (hplain : compiled.AllData fun value => value.isPlainData = true)
    (hkeys : compiled.AllData fun value => value.hasDistinctKeys = true)
    (hversion : supportOf compiled.metadata.version
      settings.supportedCompiledVersions = .satisfied) :
    (¬ compiled.IsShallow → compiled.storedText = .error .storedTooDeep) ∧
      (compiled.IsShallow → ∃ text, compiled.storedText = .ok text ∧
        (compiled.IsSpellable →
          ∃ again, decodeCompiled settings (.text text) = .ok again ∧
          again = compiled ∧ again.storedText = .ok text) ∧
        (¬ compiled.IsSpellable →
          ∃ digits, decodeCompiled settings (.text text) =
          .error (.numeral (.oversized digits)))) := by
  refine ⟨CompiledGraph.storedText_of_not_isShallow, fun hshallow => ?_⟩
  have hstored : compiled.storedText =
      .ok (Json.write .stored (compiled.documentWith true)) :=
    if_pos (CompiledGraph.isWritable_iff.mpr hshallow)
  refine ⟨_, hstored, fun hspellable => ⟨compiled, ?_, rfl, hstored⟩, ?_⟩
  · exact CompiledGraph.decodeCompiled_of_isPlainData hplain hkeys
      hspellable hversion
  · exact CompiledGraph.decodeCompiled_write_of_not_isSpellable
      (CompiledGraph.locationKind?_of_allPlain hplain) hkeys

/-- Made by hand: nodes in no order, an entrypoint and targets that are no
nodes, and data that no kind of node has. -/
def attic : CompiledGraph where
  id := "attic"
  name := "Attic"
  startNode := none
  entrypoints := [⟨"hatch", "climb", "never"⟩]
  nodes :=
    ⟨[("trunk", ⟨.dialogue,
      ⟨[("weight", .list [.float (.ofQuotient false 5 2), .null]),
        ("lid", .dict [("open", .bool false)])], by decide⟩,
          [["beam", "hatch", "beam"], []]⟩),
            ("beam", ⟨.trigger, .empty, []⟩)], by decide⟩
  metadata := ⟨Graph.newYear, "1.4", ["dusty"]⟩

theorem attic_restored : ∃ text, attic.storedText = .ok text ∧
    ∃ again, decodeCompiled .initial (.text text) = .ok again ∧ again = attic ∧
      again.storedText = .ok text := by
  obtain ⟨text, hstored, hspellable, -⟩ :=
    (@decodeCompiled_storedText .initial attic (by decide +kernel)
      (by decide +kernel)
      (by decide +kernel)).2
        (CompiledGraph.isWritable_iff.mp (by decide +kernel))
  exact ⟨text, hstored, hspellable (by decide +kernel)⟩

/-- A value in many lists cannot be stored. -/
theorem not_always_stored :
    ¬ ∀ (settings : Settings) (compiled : CompiledGraph),
    (compiled.AllData fun value => value.isPlainData = true) →
    (compiled.AllData fun value => value.hasDistinctKeys = true) →
    supportOf compiled.metadata.version settings.supportedCompiledVersions =
      .satisfied →
    ∃ text, compiled.storedText = .ok text ∧
      decodeCompiled settings (.text text) = .ok compiled := by
  intro hstored
  obtain ⟨text, htext, -⟩ := hstored .initial
    ⟨"attic", "", none, [],
      ⟨[("trunk", ⟨.action, ⟨[("value", boxed 255 (.list []))], by decide⟩,
        []⟩)], by decide⟩, ⟨Graph.newYear, "1.0", []⟩⟩
    (by decide +kernel) (by decide +kernel) (by decide +kernel)
  rw [CompiledGraph.storedText, if_neg (by decide +kernel)] at htext
  cases htext

end StoryGraph
