import StoryGraph.Table
import StoryGraph.Value.Data
import StoryGraph.Value.Literal

/-!
# Values that are documents already

Plain data consists of nulls, truth values, finite numbers, texts, lists and
objects.  Documents hold such a value as it is.  Every value without locations
becomes plain data in a document; a location becomes an object that may hold
numbers which are not finite, since a place may.  The keys of objects and the
integers stay.
-/

namespace StoryGraph

namespace Value

mutual

/-- Whether the value is plain data. -/
def isPlainData : Value → Bool
  | .null => true
  | .bool _ => true
  | .int _ => true
  | .float number => number.isFinite
  | .str _ => true
  | .list items => arePlainData items
  | .tuple _ => false
  | .dict fields => havePlainData fields
  | .position _ => false
  | .port _ => false
termination_by structural value => value

def arePlainData : List Value → Bool
  | [] => true
  | item :: items => isPlainData item && arePlainData items
termination_by structural items => items

def havePlainData : List (String × Value) → Bool
  | [] => true
  | (_, value) :: fields => isPlainData value && havePlainData fields
termination_by structural fields => fields

end

theorem arePlainData_eq_all (items : List Value) :
    arePlainData items = items.all isPlainData := by
  induction items with
  | nil => rfl
  | cons item items ih => rw [arePlainData, ih, List.all_cons]

theorem havePlainData_eq_all (fields : List (String × Value)) :
    havePlainData fields = fields.all fun field => field.2.isPlainData := by
  induction fields with
  | nil => rfl
  | cons field fields ih => rw [havePlainData, ih, List.all_cons]

mutual

/-- Plain data stays as it is in documents. -/
theorem toData_of_isPlainData :
    ∀ value : Value, value.isPlainData = true → value.toData = value
  | .null, _ => rfl
  | .bool _, _ => rfl
  | .int _, _ => rfl
  | .float number, hplain => by
    rw [isPlainData] at hplain
    rw [toData, if_pos hplain]
  | .str _, _ => rfl
  | .list items, hplain => by
    rw [isPlainData] at hplain
    rw [toData, itemsToData_of_arePlainData items hplain]
  | .tuple _, hplain => by simp [isPlainData] at hplain
  | .dict fields, hplain => by
    rw [isPlainData] at hplain
    rw [toData, fieldsToData_of_havePlainData fields hplain]
  | .position _, hplain => by simp [isPlainData] at hplain
  | .port _, hplain => by simp [isPlainData] at hplain

theorem itemsToData_of_arePlainData :
    ∀ items : List Value, arePlainData items = true → itemsToData items = items
  | [], _ => rfl
  | item :: items, hplain => by
    rw [arePlainData, Bool.and_eq_true] at hplain
    rw [itemsToData, toData_of_isPlainData item hplain.1,
      itemsToData_of_arePlainData items hplain.2]

theorem fieldsToData_of_havePlainData :
    ∀ fields : List (String × Value), havePlainData fields = true →
      fieldsToData fields = fields
  | [], _ => rfl
  | (key, value) :: fields, hplain => by
    rw [havePlainData, Bool.and_eq_true] at hplain
    rw [fieldsToData, toData_of_isPlainData value hplain.1,
      fieldsToData_of_havePlainData fields hplain.2]

end

/-! ## Locations -/

theorem itemsLocationKind?_eq_none {items : List Value} :
    itemsLocationKind? items = none ↔
      ∀ item ∈ items, item.locationKind? = none := by
  induction items with
  | nil => simp [itemsLocationKind?]
  | cons item items ih => simp [itemsLocationKind?, ih]

theorem fieldsLocationKind?_eq_none {fields : List (String × Value)} :
    fieldsLocationKind? fields = none ↔
      ∀ field ∈ fields, field.2.locationKind? = none := by
  induction fields with
  | nil => simp [fieldsLocationKind?]
  | cons field fields ih => simp [fieldsLocationKind?, ih]

mutual

/-- Documents hold no locations. -/
theorem locationKind?_toData :
    ∀ value : Value, value.toData.locationKind? = none
  | .null => rfl
  | .bool _ => rfl
  | .int _ => rfl
  | .float number => by
    rw [toData]
    split <;> rfl
  | .str _ => rfl
  | .list items => itemsLocationKind?_itemsToData items
  | .tuple items => itemsLocationKind?_itemsToData items
  | .dict fields => fieldsLocationKind?_fieldsToData fields
  | .position _ => rfl
  | .port _ => rfl

theorem itemsLocationKind?_itemsToData :
    ∀ items : List Value, itemsLocationKind? (itemsToData items) = none
  | [] => rfl
  | item :: items => by
    rw [itemsToData, itemsLocationKind?, locationKind?_toData item,
      itemsLocationKind?_itemsToData items, Option.or_none]

theorem fieldsLocationKind?_fieldsToData :
    ∀ fields : List (String × Value),
      fieldsLocationKind? (fieldsToData fields) = none
  | [] => rfl
  | (_, value) :: fields => by
    rw [fieldsToData, fieldsLocationKind?, locationKind?_toData value,
      fieldsLocationKind?_fieldsToData fields, Option.or_none]

end

mutual

/-- A value without locations has none to replace. -/
theorem withoutLocations_eq_self :
    ∀ value : Value, value.locationKind? = none → value.withoutLocations = value
  | .null, _ => rfl
  | .bool _, _ => rfl
  | .int _, _ => rfl
  | .float _, _ => rfl
  | .str _, _ => rfl
  | .list items,
    hnone => by rw [withoutLocations, itemsWithoutLocations_eq_self items hnone]
  | .tuple items,
    hnone => by rw [withoutLocations, itemsWithoutLocations_eq_self items hnone]
  | .dict fields, hnone => by
    rw [withoutLocations, fieldsWithoutLocations_eq_self fields hnone]
  | .position _, hnone => by simp [locationKind?] at hnone
  | .port _, hnone => by simp [locationKind?] at hnone

theorem itemsWithoutLocations_eq_self :
    ∀ items : List Value, itemsLocationKind? items = none →
      itemsWithoutLocations items = items
  | [], _ => rfl
  | item :: items, hnone => by
    rw [itemsLocationKind?, Option.or_eq_none_iff] at hnone
    rw [itemsWithoutLocations, withoutLocations_eq_self item hnone.1,
      itemsWithoutLocations_eq_self items hnone.2]

theorem fieldsWithoutLocations_eq_self :
    ∀ fields : List (String × Value), fieldsLocationKind? fields = none →
      fieldsWithoutLocations fields = fields
  | [], _ => rfl
  | (_, value) :: fields, hnone => by
    rw [fieldsLocationKind?, Option.or_eq_none_iff] at hnone
    rw [fieldsWithoutLocations, withoutLocations_eq_self value hnone.1,
      fieldsWithoutLocations_eq_self fields hnone.2]

end

mutual

/-- A value without locations becomes plain data. -/
theorem isPlainData_toData :
    ∀ value : Value, value.locationKind? = none →
      value.toData.isPlainData = true
  | .null, _ => rfl
  | .bool _, _ => rfl
  | .int _, _ => rfl
  | .float number, _ => by
    rw [toData]
    split
    · next hfinite => exact hfinite
    · rfl
  | .str _, _ => rfl
  | .list items, hnone => arePlainData_itemsToData items hnone
  | .tuple items, hnone => arePlainData_itemsToData items hnone
  | .dict fields, hnone => havePlainData_fieldsToData fields hnone
  | .position _, hnone => by simp [locationKind?] at hnone
  | .port _, hnone => by simp [locationKind?] at hnone

theorem arePlainData_itemsToData :
    ∀ items : List Value, itemsLocationKind? items = none →
      arePlainData (itemsToData items) = true
  | [], _ => rfl
  | item :: items, hnone => by
    rw [itemsLocationKind?, Option.or_eq_none_iff] at hnone
    rw [itemsToData, arePlainData, isPlainData_toData item hnone.1,
      arePlainData_itemsToData items hnone.2, Bool.and_self]

theorem havePlainData_fieldsToData :
    ∀ fields : List (String × Value), fieldsLocationKind? fields = none →
      havePlainData (fieldsToData fields) = true
  | [], _ => rfl
  | (_, value) :: fields, hnone => by
    rw [fieldsLocationKind?, Option.or_eq_none_iff] at hnone
    rw [fieldsToData, havePlainData, isPlainData_toData value hnone.1,
      havePlainData_fieldsToData fields hnone.2, Bool.and_self]

end

/-! ## Levels -/

mutual

/-- Levels are only added where there are locations. -/
theorem depth_toData :
    ∀ value : Value, value.locationKind? = none →
      value.toData.depth = value.depth
  | .null, _ => rfl
  | .bool _, _ => rfl
  | .int _, _ => rfl
  | .float number, _ => by
    rw [toData]
    split <;> rfl
  | .str _, _ => rfl
  | .list items, hnone => congrArg (· + 1) (itemsDepth_itemsToData items hnone)
  | .tuple items, hnone => congrArg (· + 1) (itemsDepth_itemsToData items hnone)
  | .dict fields, hnone =>
    congrArg (· + 1) (fieldsDepth_fieldsToData fields hnone)
  | .position _, hnone => by simp [locationKind?] at hnone
  | .port _, hnone => by simp [locationKind?] at hnone

theorem itemsDepth_itemsToData :
    ∀ items : List Value, itemsLocationKind? items = none →
      itemsDepth (itemsToData items) = itemsDepth items
  | [], _ => rfl
  | item :: items, hnone => by
    rw [itemsLocationKind?, Option.or_eq_none_iff] at hnone
    rw [itemsToData, itemsDepth, itemsDepth, depth_toData item hnone.1,
      itemsDepth_itemsToData items hnone.2]

theorem fieldsDepth_fieldsToData :
    ∀ fields : List (String × Value), fieldsLocationKind? fields = none →
      fieldsDepth (fieldsToData fields) = fieldsDepth fields
  | [], _ => rfl
  | (_, value) :: fields, hnone => by
    rw [fieldsLocationKind?, Option.or_eq_none_iff] at hnone
    rw [fieldsToData, fieldsDepth, fieldsDepth, depth_toData value hnone.1,
      fieldsDepth_fieldsToData fields hnone.2]

end

/-! ## Keys -/

mutual

/-- Whether the keys of every object are distinct. -/
def hasDistinctKeys : Value → Bool
  | .list items => haveDistinctKeys items
  | .tuple items => haveDistinctKeys items
  | .dict fields => decide (names fields).Nodup && fieldsHaveDistinctKeys fields
  | _ => true
termination_by structural value => value

def haveDistinctKeys : List Value → Bool
  | [] => true
  | item :: items => hasDistinctKeys item && haveDistinctKeys items
termination_by structural items => items

def fieldsHaveDistinctKeys : List (String × Value) → Bool
  | [] => true
  | (_, value) :: fields =>
    hasDistinctKeys value && fieldsHaveDistinctKeys fields
termination_by structural fields => fields

end

theorem haveDistinctKeys_eq_all (items : List Value) :
    haveDistinctKeys items = items.all hasDistinctKeys := by
  induction items with
  | nil => rfl
  | cons item items ih => rw [haveDistinctKeys, ih, List.all_cons]

theorem fieldsHaveDistinctKeys_eq_all (fields : List (String × Value)) :
    fieldsHaveDistinctKeys fields = fields.all fun field =>
      field.2.hasDistinctKeys := by
  induction fields with
  | nil => rfl
  | cons field fields ih => rw [fieldsHaveDistinctKeys, ih, List.all_cons]

theorem names_fieldsToData (fields : List (String × Value)) :
    names (fieldsToData fields) = names fields := by
  induction fields with
  | nil => rfl
  | cons field fields ih => simpa [fieldsToData] using ih

mutual

/-- Documents keep the keys of objects. -/
theorem hasDistinctKeys_toData :
    ∀ value : Value, value.hasDistinctKeys = true →
      value.toData.hasDistinctKeys = true
  | .null, _ => rfl
  | .bool _, _ => rfl
  | .int _, _ => rfl
  | .float number, _ => by
    rw [toData]
    split <;> rfl
  | .str _, _ => rfl
  | .list items, hkeys => haveDistinctKeys_itemsToData items hkeys
  | .tuple items, hkeys => haveDistinctKeys_itemsToData items hkeys
  | .dict fields, hkeys => by
    rw [hasDistinctKeys, Bool.and_eq_true, decide_eq_true_eq] at hkeys
    rw [toData, hasDistinctKeys, names_fieldsToData, decide_eq_true hkeys.1,
      fieldsHaveDistinctKeys_fieldsToData fields hkeys.2, Bool.and_self]
  | .position _, _ => rfl
  | .port _, _ => rfl

theorem haveDistinctKeys_itemsToData :
    ∀ items : List Value, haveDistinctKeys items = true →
      haveDistinctKeys (itemsToData items) = true
  | [], _ => rfl
  | item :: items, hkeys => by
    rw [haveDistinctKeys, Bool.and_eq_true] at hkeys
    rw [itemsToData, haveDistinctKeys, hasDistinctKeys_toData item hkeys.1,
      haveDistinctKeys_itemsToData items hkeys.2, Bool.and_self]

theorem fieldsHaveDistinctKeys_fieldsToData :
    ∀ fields : List (String × Value), fieldsHaveDistinctKeys fields = true →
      fieldsHaveDistinctKeys (fieldsToData fields) = true
  | [], _ => rfl
  | (_, value) :: fields, hkeys => by
    rw [fieldsHaveDistinctKeys, Bool.and_eq_true] at hkeys
    rw [fieldsToData, fieldsHaveDistinctKeys,
      hasDistinctKeys_toData value hkeys.1,
      fieldsHaveDistinctKeys_fieldsToData fields hkeys.2, Bool.and_self]

end

/-! ## Integers -/

theorem areSpellable_eq_all (items : List Value) :
    areSpellable items = items.all isSpellable := by
  induction items with
  | nil => rfl
  | cons item items ih => rw [areSpellable, ih, List.all_cons]

theorem haveSpellable_eq_all (fields : List (String × Value)) :
    haveSpellable fields = fields.all fun field => field.2.isSpellable := by
  induction fields with
  | nil => rfl
  | cons field fields ih => rw [haveSpellable, ih, List.all_cons]

mutual

/-- Documents keep integers. -/
theorem isSpellable_toData :
    ∀ value : Value, value.toData.isSpellable = value.isSpellable
  | .null => rfl
  | .bool _ => rfl
  | .int _ => rfl
  | .float number => by
    rw [toData]
    split <;> rfl
  | .str _ => rfl
  | .list items => areSpellable_itemsToData items
  | .tuple items => areSpellable_itemsToData items
  | .dict fields => haveSpellable_fieldsToData fields
  | .position _ => rfl
  | .port ref => by simp [toData, PortRef.dump, isSpellable, haveSpellable]

theorem areSpellable_itemsToData :
    ∀ items : List Value, areSpellable (itemsToData items) = areSpellable items
  | [] => rfl
  | item :: items => by
    rw [itemsToData, areSpellable, areSpellable, isSpellable_toData item,
      areSpellable_itemsToData items]

theorem haveSpellable_fieldsToData :
    ∀ fields : List (String × Value),
      haveSpellable (fieldsToData fields) = haveSpellable fields
  | [] => rfl
  | (_, value) :: fields => by
    rw [fieldsToData, haveSpellable, haveSpellable, isSpellable_toData value,
      haveSpellable_fieldsToData fields]

end

end Value

end StoryGraph
