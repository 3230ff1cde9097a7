/-!
# Sorted lists

Sorting is stable: items that are ordered alike stay in the order in which they
were.  So a sorted list is determined by what it holds of each key, in order.
-/

namespace StoryGraph

section Sorted

variable {α : Type} {order : α → α → Bool}

/-- Sorting keeps the order of items none of which has to come after another. -/
theorem filter_mergeSort {chosen : α → Bool}
    (htrans : ∀ first second third, order first second = true →
      order second third = true → order first third = true)
    (htotal : ∀ first second, (order first second || order second first) = true)
    (halike : ∀ first second, chosen first = true → chosen second = true →
      order first second = true) (items : List α) :
    (items.mergeSort order).filter chosen = items.filter chosen := by
  have hpairwise :
      (items.filter chosen).Pairwise fun first second =>
        order first second = true := by
    apply List.pairwise_of_forall_mem_list
    intro first hfirst second hsecond
    exact halike first second (List.mem_filter.mp hfirst).2
      (List.mem_filter.mp hsecond).2
  have hsublist :
      (items.filter chosen).Sublist
        ((items.mergeSort order).filter chosen) := by
    have hsorted :=
      (List.sublist_mergeSort htrans htotal hpairwise
        List.filter_sublist).filter chosen
    simpa only [List.filter_filter, Bool.and_self] using hsorted
  have hlength : (items.filter chosen).length =
      ((items.mergeSort order).filter chosen).length :=
    ((List.mergeSort_perm items order).filter chosen).length_eq.symm
  exact (hsublist.eq_of_length hlength).symm

section Keys

variable {β : Type} [BEq β] [LawfulBEq β] {key : α → β}
  {firsts seconds : List α}

theorem mem_iff_of_filter_eq
    (hfilter : ∀ wanted,
      firsts.filter (key · == wanted) = seconds.filter (key · == wanted))
    (item : α) : item ∈ firsts ↔ item ∈ seconds := by
  have hsame : item ∈ firsts.filter (key · == key item) ↔
      item ∈ seconds.filter (key · == key item) := by rw [hfilter]
  simpa using hsame

/-- Lists that are sorted by a key are equal when they hold the same items of
each key in the same order. -/
theorem eq_of_filter_eq
    (hkey : ∀ first second, order first second = true →
      order second first = true → key first = key second)
    (hfirsts : firsts.Pairwise fun first second => order first second = true)
    (hseconds : seconds.Pairwise fun first second => order first second = true)
    (hfilter : ∀ wanted,
      firsts.filter (key · == wanted) = seconds.filter (key · == wanted)) :
    firsts = seconds := by
  induction firsts generalizing seconds with
  | nil =>
    cases seconds with
    | nil => rfl
    | cons second seconds =>
      cases (mem_iff_of_filter_eq hfilter second).mpr List.mem_cons_self
  | cons first firsts ih =>
    cases seconds with
    | nil => cases (mem_iff_of_filter_eq hfilter first).mp List.mem_cons_self
    | cons second seconds =>
      rw [List.pairwise_cons] at hfirsts hseconds
      -- Each of the two first items comes before the other one, unless they are
      -- the same.
      have hkeys : key first = key second := by
        rcases List.mem_cons.mp
          ((mem_iff_of_filter_eq hfilter first).mp List.mem_cons_self) with
          rfl | hlater
        · rfl
        · rcases List.mem_cons.mp
            ((mem_iff_of_filter_eq hfilter second).mpr List.mem_cons_self) with
              rfl | hearlier
          · rfl
          · exact hkey first second (hfirsts.1 second hearlier)
              (hseconds.1 first hlater)
      have hheads : first = second := by
        have hsame := hfilter (key second)
        simp only [List.filter_cons, hkeys, beq_self_eq_true, if_true,
          List.cons.injEq] at hsame
        exact hsame.1
      subst hheads
      congr 1
      apply ih hfirsts.2 hseconds.2
      intro wanted
      have hsame := hfilter wanted
      rw [List.filter_cons, List.filter_cons] at hsame
      split at hsame
      · exact (List.cons.inj hsame).2
      · exact hsame

end Keys

end Sorted

/-! ## Sorted texts -/

theorem mergeSort_increasing (texts : List String) :
    (texts.mergeSort (· ≤ ·)).Pairwise (· ≤ ·) := by
  have htrans (first second third : String)
    (hfirst : decide (first ≤ second) = true)
      (hsecond : decide (second ≤ third) = true) :
        decide (first ≤ third) = true := by
    simp only [decide_eq_true_eq] at *
    exact String.le_trans hfirst hsecond
  have htotal (first second : String) :
      (decide (first ≤ second) || decide (second ≤ first)) = true := by
    simpa using String.le_total first second
  exact (List.pairwise_mergeSort htrans htotal texts).imp of_decide_eq_true

/-- There is one increasing order. -/
theorem mergeSort_eq_of_perm {texts sorted : List String}
    (hsorted : sorted.Pairwise (· ≤ ·)) (hperm : texts.Perm sorted) :
    texts.mergeSort (· ≤ ·) = sorted :=
  List.Perm.eq_of_pairwise (fun _ _ _ _ => String.le_antisymm)
    (mergeSort_increasing texts) hsorted
    ((List.mergeSort_perm texts _).trans hperm)

theorem mergeSort_strictly_increasing {texts : List String}
    (hdistinct : texts.Nodup) : (texts.mergeSort (· ≤ ·)).Pairwise (· < ·) :=
  (mergeSort_increasing texts).imp₂
    (fun _ _ hle hne => Std.lt_of_le_of_ne hle hne)
    ((List.mergeSort_perm texts _).nodup_iff.mpr hdistinct)

theorem positions_increasing {α : Type} (items : List α) :
    (items.zipIdx.map Prod.snd).Pairwise (· < ·) := by
  rw [List.zipIdx_map_snd]
  exact List.pairwise_lt_range' 1

end StoryGraph
