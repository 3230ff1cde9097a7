import StoryGraph.Json.Encoding
import StoryGraph.Json.Writer

/-!
# The characters of a written text

The reader works on characters while the writer puts texts together.  Here the
characters of a written value are collected part by part, so that it can be
decided whether a document is read as it was written.
-/

namespace StoryGraph.Json

section Characters

variable (style : Style)

/-- The characters of a quoted text, followed by others. -/
def stringCharacters (text : String) (rest : List Char) : List Char :=
  '"' :: text.toList.foldr (fun character rest =>
    (escapeCharacter style.latinOnly character).toList ++ rest) ('"' :: rest)

theorem stringCharacters_eq (text : String) (rest : List Char) :
    stringCharacters style text rest =
      (writeString style text).toList ++ rest := by
  have hescaped (characters : List Char) :
    characters.foldr (fun character rest =>
      (escapeCharacter style.latinOnly character).toList ++ rest)
        ('"' :: rest) =
        (characters.flatMap fun character =>
          (escapeCharacter style.latinOnly character).toList) ++
            '"' :: rest := by
    induction characters with
    | nil => rfl
    | cons character characters ih =>
      rw [List.foldr_cons, ih, List.flatMap_cons, List.append_assoc]
  simp [stringCharacters, hescaped, writeString, List.flatMap_map]

mutual

/-- The characters of a written value, followed by others. -/
def characters : Value → List Char → List Char
  | .str text, rest => stringCharacters style text rest
  | .list items, rest => '[' :: itemCharacters true items (']' :: rest)
  | .tuple items, rest => '[' :: itemCharacters true items (']' :: rest)
  | .dict fields, rest => '\x7b' :: fieldCharacters true fields ('\x7d' :: rest)
  | value, rest => (write style value).toList ++ rest
termination_by structural value => value

/-- The characters of items, each but the first after a separator. -/
def itemCharacters (first : Bool) : List Value → List Char → List Char
  | [], rest => rest
  | item :: items, rest =>
    let written := characters item (itemCharacters false items rest)
    if first then written else style.itemSeparator.toList ++ written
termination_by structural items => items

def fieldCharacters (first : Bool) :
    List (String × Value) → List Char → List Char
  | [], rest => rest
  | (key, value) :: fields, rest =>
    let written := stringCharacters style key
      (style.keySeparator.toList ++
        characters value (fieldCharacters false fields rest))
    if first then written else style.itemSeparator.toList ++ written
termination_by structural fields => fields

end

/-- Parts in a row, each but the first after a separator. -/
def joined (separator : List Char) (first : Bool)
    (parts : List (List Char)) : List Char :=
  if first then separator.intercalate parts else parts.flatMap (separator ++ ·)

theorem joined_cons (separator : List Char) (first : Bool) (part : List Char)
    (parts : List (List Char)) : joined separator first (part :: parts) =
      (if first then part else separator ++ part) ++
        joined separator false parts := by
  cases first with
  | true =>
    induction parts generalizing part with
    | nil => simp [joined]
    | cons next parts ih =>
      simp only [joined, if_true] at ih ⊢
      rw [List.intercalate_cons_cons, ih]
      simp
  | false => simp [joined]

mutual

theorem characters_eq : ∀ (value : Value) (rest : List Char),
    characters style value rest = (write style value).toList ++ rest
  | .null, _ => rfl
  | .bool _, _ => rfl
  | .int _, _ => rfl
  | .float _, _ => rfl
  | .str text, rest => stringCharacters_eq style text rest
  | .list items, rest => by
    rw [characters, itemCharacters_eq true items]
    simp [write, joined]
  | .tuple items, rest => by
    rw [characters, itemCharacters_eq true items]
    simp [write, joined]
  | .dict fields, rest => by
    rw [characters, fieldCharacters_eq true fields]
    simp [write, joined]
  | .position _, _ => rfl
  | .port _, _ => rfl

theorem itemCharacters_eq (first : Bool) :
    ∀ (items : List Value) (rest : List Char),
    itemCharacters style first items rest =
      joined style.itemSeparator.toList
        first ((writeItems style items).map String.toList) ++ rest
  | [], rest => by cases first <;> rfl
  | item :: items, rest => by
    rw [itemCharacters, characters_eq item, itemCharacters_eq false items,
      writeItems, List.map_cons, joined_cons]
    cases first <;> simp

theorem fieldCharacters_eq (first : Bool) :
    ∀ (fields : List (String × Value)) (rest : List Char),
      fieldCharacters style first fields rest =
        joined style.itemSeparator.toList
          first ((writeFields style fields).map String.toList) ++
          rest
  | [], rest => by cases first <;> rfl
  | (key, value) :: fields, rest => by
    rw [fieldCharacters, stringCharacters_eq, characters_eq value,
      fieldCharacters_eq false fields, writeFields, List.map_cons, joined_cons]
    cases first <;> simp

end

theorem toList_write (value : Value) :
    (write style value).toList = characters style value [] := by
  rw [characters_eq, List.append_nil]

end Characters

/-- Whether the text of a document is read as the document that was written. -/
def ReadsBack (document : Value) : Prop :=
  (Source.text (write .document document)).read = .ok document

/-- What characters are read as, if they are read at all. -/
def readOption (text : List Char) : Option Value :=
  match text with
  | '\ufeff' :: _ => none
  | text => (readCharacters text).toOption

/-- Another error does not change what is accepted. -/
theorem mapError_eq_ok_iff {ε η α : Type} {transform : ε → η}
    {result : Except ε α} {value : α} :
    result.mapError transform = .ok value ↔ result.toOption = some value := by
  cases result with
  | error error => exact ⟨nofun, nofun⟩
  | ok found =>
    exact ⟨fun hmapped => congrArg some (Except.ok.inj hmapped),
      fun hsome => congrArg Except.ok (Option.some.inj hsome)⟩

theorem readsBack_iff {document : Value} :
    ReadsBack document ↔
      readOption (characters .document document []) = some document := by
  rw [ReadsBack, Source.read, readText, toList_write]
  generalize characters .document document [] = text
  rw [mapError_eq_ok_iff]
  split
  case h_1 => rfl
  case h_2 hunmarked => rw [readOption]; exact hunmarked

instance (document : Value) : Decidable (ReadsBack document) :=
  decidable_of_iff' _ readsBack_iff

end StoryGraph.Json
