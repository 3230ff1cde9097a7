import StoryGraph.IdSupply

/-!
# Ids that have been handed out

A supply hands out each id once: two numbers never give the same id, so the
next id of a supply differs from all the ids before it.
-/

namespace StoryGraph

/-- The digits of a number determine it. -/
theorem Layout.digitText_injective : Function.Injective Layout.digitText := by
  intro left right heq
  have hdigits : Nat.toDigits 10 left = Nat.toDigits 10 right :=
    String.ofList_injective heq
  calc
    left = Nat.ofDigitChars 10 (Nat.toDigits 10 left) 0 :=
      Nat.ofDigitChars_ten_toDigits.symm
    _ = Nat.ofDigitChars 10 (Nat.toDigits 10 right) 0 := by rw [hdigits]
    _ = right := Nat.ofDigitChars_ten_toDigits

namespace IdSupply

/-- An id that a supply has handed out for a kind of thing. -/
def Issued (supply : IdSupply) (thing id : String) : Prop :=
  ∃ number < supply.next, ((IdSupply.mk number).take thing).1.val = id

theorem take_injective (thing : String) :
    Function.Injective fun number =>
      ((IdSupply.mk number).take thing).1.val := by
  intro left right heq
  simp only [take] at heq
  exact Layout.digitText_injective (String.append_right_inj _ |>.mp heq)

/-- The next id is a new one. -/
theorem take_not_issued (supply : IdSupply) (thing : String) :
    ¬ supply.Issued thing (supply.take thing).1.val := by
  rintro ⟨number, hbefore, heq⟩
  have hnumber : number = supply.next := take_injective thing heq
  omega

theorem Issued.mono {supply later : IdSupply} {thing id : String}
    (hissued : supply.Issued thing id) (hle : supply.next ≤ later.next) :
    later.Issued thing id := by
  obtain ⟨number, hbefore, heq⟩ := hissued
  exact ⟨number, Nat.lt_of_lt_of_le hbefore hle, heq⟩

@[simp]
theorem next_take (supply : IdSupply) (thing : String) :
    (supply.take thing).2.next = supply.next + 1 := rfl

/-- An id counts as handed out once it has been taken. -/
theorem take_issued (supply : IdSupply) (thing : String) :
    (supply.take thing).2.Issued thing (supply.take thing).1.val :=
  ⟨supply.next, Nat.lt_succ_self _, rfl⟩

theorem next_le_orTake (supply : IdSupply) (thing : String)
    (id : Option String) : supply.next ≤ (supply.orTake thing id).2.next := by
  cases id with
  | none => exact Nat.le_succ _
  | some id =>
    by_cases hempty : id = ""
    · simp [orTake, hempty]
    · simp [orTake, hempty]

end IdSupply

end StoryGraph
