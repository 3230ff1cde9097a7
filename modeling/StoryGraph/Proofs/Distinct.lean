/-!
# Items with keys of their own

In a list whose items have distinct keys, the search for a key finds the item
that has it, and an item with another key may be added.
-/

namespace StoryGraph

section Distinct

variable {α β : Type} {key : α → β} {items : List α}

/-- An item with a key of its own may be added at the end. -/
theorem nodup_append_singleton (hdistinct : (items.map key).Nodup) {item : α}
    (hnew : key item ∉ items.map key) : ((items ++ [item]).map key).Nodup := by
  rw [List.map_append, List.map_singleton, List.nodup_append]
  refine ⟨hdistinct, by simp, ?_⟩
  intro old hold added hadded heq
  rw [List.mem_singleton.mp hadded] at heq
  exact hnew (heq ▸ hold)

variable [BEq β] [LawfulBEq β]

/-- The search for the key of an item finds the item. -/
theorem find?_of_distinct (hdistinct : (items.map key).Nodup) {item : α}
    (hmem : item ∈ items) : items.find? (key · == key item) = some item := by
  induction items with
  | nil => cases hmem
  | cons first rest ih =>
    rw [List.map_cons, List.nodup_cons] at hdistinct
    rcases List.mem_cons.mp hmem with rfl | hrest
    · simp
    · have hne : (key first == key item) = false := by
        rw [beq_eq_false_iff_ne]
        intro heq
        exact hdistinct.1 (heq ▸ List.mem_map_of_mem hrest)
      rw [List.find?_cons, hne]
      exact ih hdistinct.2 hrest

/-- Keys are distinct when no two items share one. -/
theorem distinct_iff_length_filter_le_one :
    (items.map key).Nodup ↔
      ∀ wanted, (items.filter (key · == wanted)).length ≤ 1 := by
  have hcount (wanted : β) :
      (items.filter (key · == wanted)).length =
        (items.map key).count wanted := by
    rw [← List.countP_eq_length_filter, List.count, List.countP_map]
    rfl
  simp only [hcount]
  exact List.nodup_iff_count

/-- Items with the same key are the same. -/
theorem eq_of_distinct (hdistinct : (items.map key).Nodup) {first second : α}
    (hfirst : first ∈ items) (hsecond : second ∈ items)
    (hkey : key first = key second) : first = second := by
  have hfound := find?_of_distinct hdistinct hfirst
  rw [hkey, find?_of_distinct hdistinct hsecond] at hfound
  exact (Option.some.inj hfound).symm

/-- A part that belongs to the key of one item comes up once. -/
theorem flatMap_of_distinct {γ : Type} (hdistinct : (items.map key).Nodup)
    {item : α} (hmem : item ∈ items) (part : List γ) :
    (items.flatMap fun other => if key other == key item then part else []) =
      part := by
  induction items with
  | nil => cases hmem
  | cons first rest ih =>
    rw [List.map_cons, List.nodup_cons] at hdistinct
    rw [List.flatMap_cons]
    rcases List.mem_cons.mp hmem with rfl | hrest
    · have hothers : ∀ other ∈ rest, (key other == key item) = false := by
        intro other hother
        rw [beq_eq_false_iff_ne]
        intro heq
        exact hdistinct.1 (heq ▸ List.mem_map_of_mem hother)
      have hnone :
          (rest.flatMap fun other => if key other == key item then part
            else []) = [] := by
        rw [List.flatMap_eq_nil_iff]
        intro other hother
        rw [hothers other hother]
        rfl
      rw [hnone, List.append_nil, if_pos (beq_self_eq_true _)]
    · have hne : (key first == key item) = false := by
        rw [beq_eq_false_iff_ne]
        intro heq
        exact hdistinct.1 (heq ▸ List.mem_map_of_mem hrest)
      rw [hne]
      exact ih hdistinct.2 hrest

/-- Items that are grouped by distinct keys are all there, once each. -/
theorem perm_flatMap_filter {keys : List β} (hkeys : keys.Nodup)
    (hcovered : ∀ item ∈ items, key item ∈ keys) :
    (keys.flatMap fun wanted => items.filter (key · == wanted)).Perm items := by
  induction keys generalizing items with
  | nil =>
    cases items with
    | nil => exact .refl _
    | cons item rest => cases hcovered item List.mem_cons_self
  | cons first rest ih =>
    rw [List.nodup_cons] at hkeys
    -- The items of the first key are in none of the other groups.
    have hothers :
        (rest.flatMap fun wanted => items.filter (key · == wanted)) =
          rest.flatMap fun wanted =>
            (items.filter fun item => !(key item == first)).filter
            (key · == wanted) := by
      rw [List.flatMap_def, List.flatMap_def]
      congr 1
      apply List.map_congr_left
      intro wanted hwanted
      rw [List.filter_filter]
      apply List.filter_congr
      intro item _
      rw [Bool.eq_iff_iff, Bool.and_eq_true, Bool.not_eq_true', beq_iff_eq,
        beq_eq_false_iff_ne, iff_self_and]
      rintro rfl heq
      exact hkeys.1 (heq ▸ hwanted)
    rw [List.flatMap_cons, hothers]
    refine ((ih hkeys.2 ?_).append_left _).trans
      (List.filter_append_perm (key · == first) items)
    intro item hitem
    obtain ⟨hmem, hne⟩ := List.mem_filter.mp hitem
    rw [Bool.not_eq_true', beq_eq_false_iff_ne] at hne
    exact (List.mem_cons.mp (hcovered item hmem)).resolve_left hne

/-- Leaving out repetitions leaves distinct items. -/
theorem nodup_eraseDups (keys : List β) : keys.eraseDups.Nodup := by
  match keys with
  | [] => simp
  | first :: rest =>
    rw [List.eraseDups_cons, List.nodup_cons]
    constructor
    · simp
    · have hshorter := List.length_filter_le (fun key => !key == first) rest
      exact nodup_eraseDups (rest.filter fun key => !key == first)
termination_by keys.length
decreasing_by simp only [List.length_cons]; omega

end Distinct

end StoryGraph
