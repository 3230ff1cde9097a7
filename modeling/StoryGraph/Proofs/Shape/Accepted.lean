import Mathlib.Data.List.Forall2
import StoryGraph.Proofs.Shape

/-!
# What checks accept

A check accepts a value exactly when it accepts every part: each item of a list,
both parts of a pair, each field of a record, with no keys left over.
-/

namespace StoryGraph

namespace Checked

variable {α β γ : Type}

theorem map_map (outer : β → γ) (inner : α → β) (checked : Checked α) :
    (checked.map inner).map outer = checked.map (outer ∘ inner) := by
  cases checked <;> rfl

theorem map_eq_accepted_iff {checked : Checked α} {transform : α → β}
    {result : β} :
    checked.map transform = .accepted result ↔
      ∃ part, checked = .accepted part ∧ transform part = result := by
  cases checked <;> simp [map]

theorem apply_eq_accepted_iff {function : Checked (α → β)}
    {argument : Checked α} {result : β} :
    function.apply argument = .accepted result ↔
      ∃ transform part, function = .accepted transform ∧
        argument = .accepted part ∧
        transform part = result := by
  cases function <;> cases argument <;> simp [apply]

theorem under_eq_accepted_iff {step : Step} {checked : Checked α} {result : α} :
    checked.under step = .accepted result ↔ checked = .accepted result := by
  cases checked <;> simp [under]

theorem andThen_eq_accepted_iff {checked : Checked α} {next : α → Checked β}
    {result : β} :
    checked.andThen next = .accepted result ↔
      ∃ part, checked = .accepted part ∧ next part = .accepted result := by
  cases checked <;> simp [andThen]

theorem fmap_eq (transform : α → β) (checked : Checked α) :
    transform <$> checked = checked.map transform := rfl

theorem seq_eq (function : Checked (α → β)) (argument : Checked α) :
    function <*> argument = function.apply argument := rfl

/-- A condition that is checked beside a result. -/
theorem seqLeft_eq_accepted_iff {first : Checked α} {second : Checked β}
    {result : α} :
    first <* second = .accepted result ↔
      first = .accepted result ∧ ∃ other, second = .accepted other := by
  have hseq : first <* second = (first.map (Function.const β)).apply second :=
    rfl
  rw [hseq]
  cases first <;> cases second <;> simp [map, apply]

theorem all_eq_accepted_iff {parts : List (Checked α)} {results : List α} :
    all parts = .accepted results ↔
      List.Forall₂ (fun part result => part = .accepted result) parts
        results := by
  induction parts generalizing results with
  | nil => simp [all, eq_comm]
  | cons part parts ih =>
    rw [all, apply_eq_accepted_iff]
    constructor
    · rintro ⟨transform, rest, hfirst, hrest, rfl⟩
      obtain ⟨first, rfl, rfl⟩ := map_eq_accepted_iff.mp hfirst
      exact .cons rfl (ih.mp hrest)
    · intro hparts
      cases hparts with
      | cons hfirst hrest =>
        exact ⟨_, _, by rw [hfirst]; rfl, ih.mpr hrest, rfl⟩

theorem all_eq_accepted_iff_eq_map {parts : List (Checked α)}
    {results : List α} :
    all parts = .accepted results ↔ parts = results.map accepted := by
  rw [all_eq_accepted_iff, ← List.forall₂_eq_eq_eq, List.forall₂_map_right_iff]

end Checked

theorem find?_plain (key : String) (fields : List (String × Value)) :
    (FieldName.plain key).find? fields = (fields.lookup key).map fun value =>
      (key, value) := by
  rw [FieldName.find?, FieldName.plain]
  cases fields.lookup key <;> rfl

namespace Check

variable {α β : Type}

/-! ## What values hold -/

def IsText (value : Value) (text : String) : Prop := value = .str text

/-- Of a repeated key, the last value counts. -/
def IsObject (value : Value) (object : Table Value) : Prop :=
  ∃ fields, value = .dict fields ∧ Table.ofList fields = object

/-- A list with one item for each result. -/
def IsList (accepts : Value → α → Prop) (value : Value)
    (results : List α) : Prop :=
  ∃ items, value.items? = some items ∧ List.Forall₂ accepts items results

def IsPair (accepts : Value → α → Prop) (accepts' : Value → β → Prop)
    (value : Value) (pair : α × β) : Prop :=
  ∃ first second, value.items? = some [first, second] ∧ accepts first pair.1 ∧
    accepts' second pair.2

/-- A value that is accepted, or none at all and a fallback. -/
def Given (accepts : Value → α → Prop) (fallback : Option α)
    (found : Option Value) (result : α) : Prop :=
  match found with
  | some value => accepts value result
  | none => fallback = some result

/-! ## What checks accept -/

theorem any_eq_accepted_iff {value result : Value} :
    any value = .accepted result ↔ value = result := by
  simp [any]

theorem text_eq_accepted_iff {value : Value} {result : String} :
    text value = .accepted result ↔ IsText value result := by
  cases value <;> simp [text, IsText, Checked.fail]

theorem table_any_eq_accepted_iff {value : Value} {result : Table Value} :
    table any value = .accepted result ↔ IsObject value result := by
  cases value with
  | dict fields => simp [table_any, IsObject]
  | _ => simp [table, IsObject, Checked.fail]

section Parts

variable {check : Check α} {accepts : Value → α → Prop}
variable (hcheck : ∀ {value result}, check value = .accepted result ↔
  accepts value result)

include hcheck

theorem list_eq_accepted_iff {value : Value} {results : List α} :
    list check value = .accepted results ↔ IsList accepts value results := by
  rw [list, sequence, IsList]
  cases value.items? with
  | none => simp [Checked.fail]
  | some values =>
    simp only [Option.some.injEq, exists_eq_left', items]
    rw [Checked.all_eq_accepted_iff]
    -- The positions of the items show in issues only.
    have hitems :
        ∀ place : Nat → Step,
          List.Forall₂ (fun part result => part = Checked.accepted result)
            (values.mapIdx fun position value =>
              (check value).under (place position)) results ↔
                List.Forall₂ accepts values results := by
      intro place
      induction values generalizing results place with
      | nil => simp
      | cons value values ih =>
        rw [List.mapIdx_cons, List.forall₂_cons_left_iff,
          List.forall₂_cons_left_iff]
        simp only [Checked.under_eq_accepted_iff, hcheck,
          ih fun position => place (position + 1)]
    exact hitems fun position => .index position

theorem pair_eq_accepted_iff {second : Check β} {accepts' : Value → β → Prop}
    (hsecond : ∀ {value result}, second value = .accepted result ↔
      accepts' value result) {value : Value} {result : α × β} :
    pair check second value = .accepted result ↔
      IsPair accepts accepts' value result := by
  have hitems : ∀ items, pairItems check second items = .accepted result ↔
      ∃ former latter, items = [former, latter] ∧ accepts former result.1 ∧
        accepts' latter result.2 := by
    intro items
    match items with
    | [] => simp [pairItems]
    | [former] =>
      cases hformer : check former <;>
        simp [pairItems, hformer, Checked.under, Checked.map, Checked.apply]
    | [former, latter] =>
      rw [pairItems, Checked.apply_eq_accepted_iff]
      simp [Checked.map_eq_accepted_iff, Checked.under_eq_accepted_iff, hcheck,
        hsecond, Prod.ext_iff]
    | _ :: _ :: _ :: _ => simp [pairItems, Checked.fail]
  rw [pair, IsPair]
  cases value.items? with
  | none => simp [Checked.fail]
  | some items => simpa using hitems items

/-- A field with a single spelling. -/
theorem plain_eq_accepted_iff {key : String} {fallback : Option α}
    {fields : List (String × Value)} {result : α} :
    (FieldName.plain key).check check fallback fields = .accepted result ↔
      Given accepts fallback (fields.lookup key) result := by
  have hfound : (FieldName.plain key).find? fields =
      (fields.lookup key).map fun value => (key, value) :=
    find?_plain key fields
  cases hvalue : fields.lookup key with
  | some value =>
    rw [hvalue, Option.map_some] at hfound
    simp only [FieldName.check, hfound, Given, Checked.under_eq_accepted_iff,
      hcheck]
  | none =>
    rw [hvalue, Option.map_none] at hfound
    cases fallback <;> simp [FieldName.check, hfound, Given]

end Parts

/-- A record is accepted when its fields are, and no keys are left over. -/
theorem record_eq_accepted_iff {known : List FieldName}
    {read : List (String × Value) → Checked α} {fields : List (String × Value)}
    {result : α} :
    record known read (.dict fields) = .accepted result ↔
      read fields = .accepted result ∧ unknownKeys known fields = [] := by
  rw [record, Checked.seqLeft_eq_accepted_iff, noOthers]
  cases unknownKeys known fields <;> simp

end Check

theorem lookup_isSome_iff_mem_names {α : Type} {name : String}
    {fields : List (String × α)} :
    (fields.lookup name).isSome = true ↔ name ∈ names fields := by
  rw [List.lookup_isSome_iff, names, List.mem_map]
  simp only [beq_iff_eq, @eq_comm _ name]

/-- Fields with single spellings use their own keys. -/
theorem unknownKeys_plain_eq_nil_iff {keys : List String}
    {fields : List (String × Value)} :
    unknownKeys (keys.map FieldName.plain) fields = [] ↔
      names fields ⊆ keys := by
  have hused : ∀ name ∈ names fields,
      (name ∈ (keys.map FieldName.plain).filterMap fun field =>
        (field.find? fields).map Prod.fst) ↔ name ∈ keys := by
    intro name hname
    obtain ⟨value, hvalue⟩ :=
      Option.isSome_iff_exists.mp (lookup_isSome_iff_mem_names.mpr hname)
    simp only [List.mem_filterMap, List.mem_map, exists_exists_and_eq_and,
      find?_plain, Option.map_eq_some_iff]
    constructor
    · rintro ⟨key, hkey, found, hfound, rfl⟩
      exact hkey
    · exact fun hkey => ⟨name, hkey, value, hvalue, rfl⟩
  rw [unknownKeys, List.filter_eq_nil_iff]
  exact forall₂_congr fun name hname => by simpa using hused name hname

end StoryGraph
