import StoryGraph.Proofs.Json.Characters
import StoryGraph.Proofs.Json.Numbers
import StoryGraph.Proofs.Table
import StoryGraph.Proofs.Value.Data

/-!
# Reading what was written

Plain data whose objects have distinct keys and whose integers have numerals is
read from its stored text as it was written.  Texts are read character by
character; numbers, lists and objects end where the writer puts what follows
them.  The fuel of the reader is twice the length of the text, which is enough
for a step at every character.  The first integer without a numeral is written,
but ends the reading.
-/

namespace StoryGraph.Json

/-! ## Texts -/

section Strings

variable (opening : Nat) {character : Char} {rest : List Char}

/-- The body of a string with one more character in front. -/
def withCharacter (character : Char)
    (result : List Char × List Char) : List Char × List Char :=
  (character :: result.1, result.2)

theorem stringBody_plain (hquote : character ≠ '"')
    (hbackslash : character ≠ '\\') (hprintable : ¬ character.toNat < 0x20) :
    stringBody opening (character :: rest) =
      (stringBody opening rest).map (withCharacter character) := by
  rw [stringBody.eq_7 opening character rest hquote
    (fun _ _ _ _ _ _ h => absurd h hbackslash) (fun _ h => absurd h hbackslash)
    (fun _ _ h => absurd h hbackslash) (fun h => absurd h hbackslash),
    if_neg hprintable]
  rfl

theorem stringBody_mark {mark : Char}
    (hescaped : escaped? mark = some character) :
    stringBody opening ('\\' :: mark :: rest) =
      (stringBody opening rest).map (withCharacter character) := by
  have hmark : mark ≠ 'u' := by
    rintro rfl
    cases hescaped
  rw [stringBody.eq_5 opening mark rest (fun _ _ _ _ _ _ h => absurd h hmark)
    hmark, hescaped]
  rfl

/-- A code that is no half of a surrogate pair. -/
theorem stringBody_code {a b c d : Char} {code : Nat}
    (hcode : hexCode? a b c d = some code)
    (hsingle : isHighSurrogate code = false)
    (hcharacter : character? code = some character) (hrest : rest ≠ []) :
    stringBody opening ('\\' :: 'u' :: a :: b :: c :: d :: rest) =
      (stringBody opening rest).map (withCharacter character) := by
  obtain ⟨next, after, rfl⟩ := List.exists_cons_of_ne_nil hrest
  rw [stringBody]
  simp only [hcode, hsingle, hcharacter]
  rfl

/-- A control character is written as its code, which is read back. -/
theorem codeEscape_control : ∀ code < 0x20,
    (codeEscape code).toList =
        ['\\', 'u', '0', '0', (code / 16).digitChar, (code % 16).digitChar] ∧
      hexCode? '0' '0' (code / 16).digitChar (code % 16).digitChar =
        some code := by
  decide +kernel

theorem stringBody_escapeCharacter (character : Char) (hrest : rest ≠ []) :
    stringBody opening ((escapeCharacter false character).toList ++ rest) =
      (stringBody opening rest).map (withCharacter character) := by
  have hofNat := Char.ofNat_toNat character
  unfold escapeCharacter
  simp only
  split_ifs with hquote hbackslash hnewline hreturn htab hbackspace hfeed
    hcontrol hlatin
  · rw [beq_iff_eq] at hquote
    exact stringBody_mark opening (by rw [hquote]; rfl)
  · rw [beq_iff_eq] at hbackslash
    exact stringBody_mark opening (by rw [hbackslash]; rfl)
  · rw [beq_iff_eq] at hnewline
    exact stringBody_mark opening (by rw [hnewline]; rfl)
  · rw [beq_iff_eq] at hreturn
    exact stringBody_mark opening (by rw [hreturn]; rfl)
  · rw [beq_iff_eq] at htab
    exact stringBody_mark opening (by rw [htab]; rfl)
  · rw [hbackspace] at hofNat
    exact stringBody_mark opening (by rw [← hofNat]; rfl)
  · rw [hfeed] at hofNat
    exact stringBody_mark opening (by rw [← hofNat]; rfl)
  · obtain ⟨htext, hcode⟩ := codeEscape_control _ hcontrol
    have hsingle : isHighSurrogate character.toNat = false := by
      simp only [isHighSurrogate, Bool.and_eq_false_iff,
        decide_eq_false_iff_not]
      omega
    have hsame : character? character.toNat = some character := by
      rw [character?, hsingle, if_neg (by simp [isLowSurrogate]; omega), hofNat]
    rw [htext]
    exact stringBody_code opening hcode hsingle hsame hrest
  · cases hlatin
  · rw [String.toList_singleton, List.singleton_append]
    exact stringBody_plain opening (by simpa using hquote)
      (by simpa using hbackslash) hcontrol

/-- A text is read as it was written. -/
theorem stringBody_escaped (text rest : List Char) :
    stringBody opening (text.foldr (fun character rest =>
      (escapeCharacter false character).toList ++ rest) ('"' :: rest)) =
        .ok (text, rest) := by
  induction text with
  | nil => rw [List.foldr_nil, stringBody]
  | cons character text ih =>
    have hrest :
        text.foldr (fun character rest =>
          (escapeCharacter false character).toList ++ rest) ('"' :: rest) ≠
            [] := by
      intro hnil
      rw [hnil, stringBody] at ih
      cases ih
    rw [List.foldr_cons, stringBody_escapeCharacter opening character hrest, ih]
    rfl

end Strings

theorem string_stringCharacters (text : String) (rest : List Char) :
    ∃ after, stringCharacters .stored text rest = '"' :: after ∧
      rest.length < after.length ∧
      string after = .ok (text, rest) := by
  refine ⟨_, rfl, ?_, ?_⟩
  · have hlength := congrArg List.length (stringCharacters_eq .stored text rest)
    simp only [stringCharacters, List.length_cons, List.length_append,
      writeString, String.toList_append] at hlength
    have hquote : "\"".toList.length = 1 := rfl
    omega
  · have hread :=
      stringBody_escaped (List.length (text.toList.foldr (fun character rest =>
        (escapeCharacter false character).toList ++ rest) ('"' :: rest)) + 1)
          text.toList rest
    simp only [string, Style.stored]
    rw [hread]
    simp [Except.map]

/-! ## Where values begin and end -/

/-- The characters start with something that is neither blank, nor the end of a
list, nor a byte order mark. -/
def Opens (characters : List Char) : Prop :=
  ∃ first rest, characters = first :: rest ∧ isBlank first = false ∧
    first ≠ ']' ∧
    first ≠ '\ufeff'

theorem Opens.skipBlank {characters : List Char} (hopens : Opens characters) :
    Json.skipBlank characters = characters := by
  obtain ⟨first, rest, rfl, hblank, -, -⟩ := hopens
  simp [Json.skipBlank, hblank]

theorem opens_of_number {characters : List Char} {result : Value × List Char}
    (hnumber : number? characters = some result) : Opens characters := by
  cases characters with
  | nil => cases hnumber
  | cons first rest =>
    refine ⟨first, rest, rfl, ?_, ?_, ?_⟩
    · rw [← Bool.not_eq_true]
      intro hblank
      simp only [isBlank, Bool.or_eq_true, beq_iff_eq] at hblank
      rcases hblank with ((rfl | rfl) | rfl) | rfl <;>
        simp [number?, minus, wholePart?, Char.isDigit] at hnumber
    · rintro rfl
      simp [number?, minus, wholePart?, Char.isDigit] at hnumber
    · rintro rfl
      simp [number?, minus, wholePart?, Char.isDigit] at hnumber

/-- What is read as a number is not read as anything else. -/
theorem value_of_number {characters rest : List Char} {number : Value}
    (hnumber : number? characters = some (number, rest)) (fuel : Nat) :
    value (fuel + 1) characters =
      (oversized? number).elim (.ok (number, rest)) fun digits =>
        failAt (.oversizedInteger digits) characters := by
  rw [value.eq_11, hnumber]
  · dsimp only
    cases oversized? number <;> rfl
  all_goals
    rintro rest rfl
    simp [number?, minus, wholePart?, Char.isDigit] at hnumber

theorem value_of_string {characters rest : List Char} {text : String}
    (hstring : string characters = .ok (text, rest)) (fuel : Nat) :
    value (fuel + 1) ('"' :: characters) = .ok (.str text, rest) := by
  rw [value.eq_2, hstring]
  rfl

theorem value_of_items {characters : List Char} (hopens : Opens characters)
    (fuel : Nat) :
    value (fuel + 1) ('[' :: characters) =
      (items fuel characters).map fun read => (.list read.1, read.2) := by
  obtain ⟨first, after, rfl, -, hbracket, -⟩ := id hopens
  rw [value.eq_4, hopens.skipBlank]
  split
  · next heq => exact absurd (List.cons.inj heq).1 hbracket
  · rfl

theorem value_of_fields (characters : List Char) (fuel : Nat) :
    value (fuel + 1) ('\x7b' :: '"' :: characters) =
      (fields fuel ('"' :: characters)).map fun read =>
        (.dict (Table.ofList read.1).entries, read.2) := by
  have hskip : skipBlank ('"' :: characters) = '"' :: characters := by
    simp [skipBlank, isBlank]
  rw [value.eq_3, hskip]
  split
  · next heq => cases heq
  · rfl

/-! ## Values -/

section Values

variable {rest : List Char}

theorem closes_itemCharacters (items : List Value) (rest : List Char) :
    Closes (itemCharacters .stored false items (']' :: rest)) := by
  cases items with
  | nil => exact .bracket rest
  | cons item items => exact .comma _

theorem closes_fieldCharacters (fields : List (String × Value))
    (rest : List Char) :
    Closes (fieldCharacters .stored false fields ('\x7d' :: rest)) := by
  cases fields with
  | nil => exact .brace rest
  | cons field fields => exact .comma _

/-- The characters of plain data start with something that is not skipped. -/
theorem opens_characters {value : Value} (hplain : value.isPlainData = true)
    (hcloses : Closes rest) : Opens (characters .stored value rest) := by
  cases value with
  | null => exact ⟨'n', _, rfl, rfl, by decide, by decide⟩
  | bool truth =>
    cases truth with
    | false => exact ⟨'f', _, rfl, rfl, by decide, by decide⟩
    | true => exact ⟨'t', _, rfl, rfl, by decide, by decide⟩
  | int number => exact opens_of_number (number?_integerText number hcloses)
  | float number => exact opens_of_number (number?_text .stored hplain hcloses)
  | str text => exact ⟨'"', _, rfl, rfl, by decide, by decide⟩
  | list items => exact ⟨'[', _, rfl, rfl, by decide, by decide⟩
  | tuple => cases hplain
  | dict fields => exact ⟨'\x7b', _, rfl, rfl, by decide, by decide⟩
  | position => cases hplain
  | port => cases hplain

theorem opens_itemCharacters {item : Value} {items : List Value}
    (hplain : Value.arePlainData (item :: items) = true) :
    Opens (itemCharacters .stored true (item :: items) (']' :: rest)) := by
  rw [Value.arePlainData, Bool.and_eq_true] at hplain
  exact opens_characters hplain.1 (closes_itemCharacters items rest)

theorem length_characters (value : Value) (rest : List Char) :
    (characters .stored value rest).length =
      (characters .stored value []).length + rest.length := by
  rw [characters_eq, characters_eq, List.length_append, List.append_nil]

theorem length_itemCharacters (items : List Value) (rest : List Char) :
    rest.length ≤ (itemCharacters .stored false items rest).length := by
  rw [itemCharacters_eq, List.length_append]
  exact Nat.le_add_left _ _

theorem length_fieldCharacters (fields : List (String × Value))
    (rest : List Char) :
    rest.length ≤ (fieldCharacters .stored false fields rest).length := by
  rw [fieldCharacters_eq, List.length_append]
  exact Nat.le_add_left _ _

theorem length_lt_characters {data : Value} (hplain : data.isPlainData = true)
    (rest : List Char) :
    rest.length < (characters .stored data rest).length := by
  obtain ⟨first, after, hopens, -⟩ := opens_characters hplain Closes.nil
  rw [length_characters, hopens, List.length_cons]
  omega

/-- There is fuel for a value that has any characters. -/
theorem fuel_positive {data : Value} {fuel : Nat}
    (hplain : data.isPlainData = true)
    (hfuel : 2 * (characters .stored data rest).length ≤
      fuel + 2 * rest.length) : ∃ less, fuel = less + 1 := by
  have hlength := length_lt_characters hplain rest
  exact ⟨fuel - 1, by omega⟩

/-- What was written is read as it was, if all integers in it have numerals;
else the reading ends at one that has none. -/
def IsReadAs {α : Type} (spellable : Bool) (data : α) (rest : List Char)
    (parsed : Parsed α) : Prop :=
  if spellable then parsed = .ok (data, rest)
  else ∃ digits remaining, parsed = .error ⟨.oversizedInteger digits, remaining⟩

theorem IsReadAs.map {α β : Type} {spellable : Bool} {data : α}
    {parsed : Parsed α} (hread : IsReadAs spellable data rest parsed)
    (use : α → β) :
    IsReadAs spellable (use data) rest
      (parsed.map fun read => (use read.1, read.2)) := by
  cases spellable with
  | true =>
    obtain rfl : parsed = .ok (data, rest) := hread
    rfl
  | false =>
    obtain ⟨digits, remaining, rfl⟩ := hread
    exact ⟨digits, remaining, rfl⟩

/-- The value is read as it was written, whatever closes it, given fuel for its
characters. -/
def IsRead (data : Value) : Prop :=
  ∀ {rest : List Char} {fuel : Nat}, Closes rest →
    2 * (characters .stored data rest).length ≤ fuel + 2 * rest.length →
    IsReadAs data.isSpellable data rest
      (value fuel (characters .stored data rest))

/-- The items are read as they were written, up to the end of their list. -/
def AreRead (items : List Value) : Prop :=
  ∀ {rest : List Char} {fuel : Nat},
    2 * (itemCharacters .stored true items (']' :: rest)).length + 1 ≤
      fuel + 2 * (rest.length + 1) →
    IsReadAs (Value.areSpellable items) items rest
      (Json.items fuel (itemCharacters .stored true items (']' :: rest)))

/-- The fields are read as they were written, up to the end of their object. -/
def FieldsAreRead (fields : List (String × Value)) : Prop :=
  ∀ {rest : List Char} {fuel : Nat},
    2 * (fieldCharacters .stored true fields ('\x7d' :: rest)).length + 1 ≤
      fuel + 2 * (rest.length + 1) →
    IsReadAs (Value.haveSpellable fields) fields rest
      (Json.fields fuel (fieldCharacters .stored true fields ('\x7d' :: rest)))

theorem isRead_null : IsRead .null := by
  intro rest fuel _ hfuel
  obtain ⟨less, rfl⟩ := fuel_positive rfl hfuel
  have htext : characters .stored .null rest =
      'n' :: 'u' :: 'l' :: 'l' :: rest :=
    rfl
  rw [htext, value.eq_5]
  rfl

theorem isRead_bool (truth : Bool) : IsRead (.bool truth) := by
  intro rest fuel _ hfuel
  obtain ⟨less, rfl⟩ := fuel_positive rfl hfuel
  cases truth with
  | false =>
    have htext : characters .stored (.bool false) rest =
        'f' :: 'a' :: 'l' :: 's' :: 'e' :: rest := rfl
    rw [htext, value.eq_7]
    rfl
  | true =>
    have htext : characters .stored (.bool true) rest =
        't' :: 'r' :: 'u' :: 'e' :: rest :=
      rfl
    rw [htext, value.eq_6]
    rfl

theorem isRead_int (number : Int) : IsRead (.int number) := by
  intro rest fuel hcloses hfuel
  obtain ⟨less, rfl⟩ := fuel_positive rfl hfuel
  have hnumber : number? (characters .stored (.int number) rest) =
      some (.int number, rest) :=
    number?_integerText number hcloses
  rw [value_of_number hnumber, Value.isSpellable, oversized?]
  cases Numeral.isSpellable number with
  | true => rfl
  | false => exact ⟨_, _, rfl⟩

theorem isRead_float {number : Binary64} (hfinite : number.isFinite = true) :
    IsRead (.float number) := by
  intro rest fuel hcloses hfuel
  obtain ⟨less, rfl⟩ := @fuel_positive rest (.float number) fuel hfinite hfuel
  exact value_of_number (number?_text .stored hfinite hcloses) less

theorem isRead_str (text : String) : IsRead (.str text) := by
  intro rest fuel _ hfuel
  obtain ⟨less, rfl⟩ := fuel_positive rfl hfuel
  obtain ⟨after, htext, -, hread⟩ := string_stringCharacters text rest
  rw [characters, htext]
  exact value_of_string hread less

theorem isRead_list {items : List Value}
    (hplain : Value.arePlainData items = true)
    (hitems : items ≠ [] → AreRead items) : IsRead (.list items) := by
  intro rest fuel _ hfuel
  obtain ⟨less, rfl⟩ := @fuel_positive rest (.list items) fuel hplain hfuel
  rw [characters, List.length_cons] at hfuel
  rw [characters]
  cases items with
  | nil =>
    rw [itemCharacters, value.eq_4]
    rfl
  | cons item items =>
    rw [value_of_items (opens_itemCharacters hplain), Value.isSpellable]
    exact (hitems (List.cons_ne_nil _ _) (by omega)).map Value.list

theorem isRead_dict {fields : List (String × Value)}
    (hdistinct : (names fields).Nodup)
    (hfields : fields ≠ [] → FieldsAreRead fields) : IsRead (.dict fields) := by
  intro rest fuel _ hfuel
  obtain ⟨less, rfl⟩ : ∃ less, fuel = less + 1 := by
    rw [length_characters, characters, List.length_cons] at hfuel
    exact ⟨fuel - 1, by omega⟩
  rw [characters, List.length_cons] at hfuel
  rw [characters]
  cases fields with
  | nil =>
    rw [fieldCharacters, value.eq_3]
    rfl
  | cons field fields =>
    have hread :=
      hfields (List.cons_ne_nil _ _)
        (show _ ≤ less + 2 * (rest.length + 1) by omega)
    obtain ⟨key, data⟩ := field
    obtain ⟨after, htext, -, -⟩ := string_stringCharacters key
      (Style.stored.keySeparator.toList ++ characters .stored data
        (fieldCharacters .stored false fields ('\x7d' :: rest)))
    rw [fieldCharacters] at hread ⊢
    simp only [if_true] at hread ⊢
    rw [htext] at hread ⊢
    have hmap :=
      hread.map fun fields => Value.dict (Table.ofList fields).entries
    rwa [Table.entries_ofList hdistinct, ← value_of_fields] at hmap

/-- Nothing is skipped between the parts of a list or an object. -/
theorem Closes.skipBlank (hcloses : Closes rest) :
    Json.skipBlank rest = rest := by
  cases hcloses <;> rfl

theorem areRead_cons {first : Value} {more : List Value}
    (hplain : Value.arePlainData (first :: more) = true) (hfirst : IsRead first)
    (hmore : more ≠ [] → AreRead more) : AreRead (first :: more) := by
  intro rest fuel hfuel
  rw [Value.arePlainData, Bool.and_eq_true] at hplain
  rw [itemCharacters, if_pos rfl] at hfuel ⊢
  have hcloses := closes_itemCharacters more rest
  have hlength := length_itemCharacters more (']' :: rest)
  have hbefore :=
    length_lt_characters hplain.1
      (itemCharacters .stored false more (']' :: rest))
  rw [List.length_cons] at hlength
  obtain ⟨less, rfl⟩ : ∃ less, fuel = less + 1 := ⟨fuel - 1, by omega⟩
  have hread := hfirst hcloses (show _ ≤ less + _ by omega)
  rw [items.eq_2, Value.areSpellable]
  cases hspellable : first.isSpellable with
  | false =>
    rw [hspellable] at hread
    obtain ⟨digits, remaining, hread⟩ := hread
    rw [hread]
    exact ⟨digits, remaining, rfl⟩
  | true =>
    rw [hspellable] at hread
    have hread : value less _ = .ok (first, _) := hread
    rw [hread]
    simp only [hcloses.skipBlank]
    cases more with
    | nil => rfl
    | cons next more =>
      have htext : itemCharacters .stored false (next :: more) (']' :: rest) =
          ',' :: itemCharacters .stored true (next :: more) (']' :: rest) := rfl
      rw [htext, List.length_cons] at hbefore
      rw [htext] at hfuel ⊢
      simp only [(opens_itemCharacters hplain.2).skipBlank]
      exact (hmore (List.cons_ne_nil _ _) (by omega)).map (first :: ·)

theorem fieldsAreRead_cons {key : String} {data : Value}
    {more : List (String × Value)} (hplain : data.isPlainData = true)
    (hdata : IsRead data) (hmore : more ≠ [] → FieldsAreRead more) :
    FieldsAreRead ((key, data) :: more) := by
  intro rest fuel hfuel
  have hcloses := closes_fieldCharacters more rest
  have hlength := length_fieldCharacters more ('\x7d' :: rest)
  have hbefore :=
    length_lt_characters hplain
      (fieldCharacters .stored false more ('\x7d' :: rest))
  have hopens := opens_characters hplain hcloses
  have hcolon :
      Style.stored.keySeparator.toList ++
        characters .stored data
          (fieldCharacters .stored false more ('\x7d' :: rest)) = ':' ::
          characters .stored data
            (fieldCharacters .stored false more ('\x7d' :: rest)) :=
    rfl
  rw [List.length_cons] at hlength
  rw [fieldCharacters, if_pos rfl, hcolon] at hfuel ⊢
  have hkey := string_stringCharacters key
    (':' :: characters .stored data
      (fieldCharacters .stored false more ('\x7d' :: rest)))
  obtain ⟨after, htext, hless, hkey⟩ := hkey
  rw [htext] at hfuel ⊢
  rw [List.length_cons] at hfuel hless
  obtain ⟨less, rfl⟩ : ∃ less, fuel = less + 1 := ⟨fuel - 1, by omega⟩
  have hskip :
      ∀ characters, skipBlank (':' :: characters) = ':' :: characters :=
    fun _ => rfl
  have hread := hdata hcloses (show _ ≤ less + _ by omega)
  rw [fields.eq_2, hkey, Value.haveSpellable]
  simp only [hskip, hopens.skipBlank]
  cases hspellable : data.isSpellable with
  | false =>
    rw [hspellable] at hread
    obtain ⟨digits, remaining, hread⟩ := hread
    rw [hread]
    exact ⟨digits, remaining, rfl⟩
  | true =>
    rw [hspellable] at hread
    have hread : value less _ = .ok (data, _) := hread
    rw [hread]
    simp only [hcloses.skipBlank]
    cases more with
    | nil => rfl
    | cons next more =>
      have hnext :
          fieldCharacters .stored false (next :: more) ('\x7d' :: rest) = ',' ::
            fieldCharacters .stored true (next :: more) ('\x7d' :: rest) :=
        rfl
      rw [hnext, List.length_cons] at hbefore
      rw [hnext] at hless ⊢
      have hquote :
          skipBlank (fieldCharacters .stored true (next :: more)
            ('\x7d' :: rest)) =
              fieldCharacters .stored true (next :: more) ('\x7d' :: rest) :=
        rfl
      simp only [hquote]
      exact (hmore (List.cons_ne_nil _ _) (by omega)).map ((key, data) :: ·)

mutual

/-- Plain data with distinct keys is read as it was written. -/
theorem isRead_of_isPlainData : ∀ data : Value,
    data.isPlainData = true → data.hasDistinctKeys = true → IsRead data
  | .null, _, _ => isRead_null
  | .bool truth, _, _ => isRead_bool truth
  | .int number, _, _ => isRead_int number
  | .float _, hplain, _ => isRead_float hplain
  | .str text, _, _ => isRead_str text
  | .list items, hplain, hkeys => isRead_list hplain fun hne =>
    areRead_of_arePlainData items hne hplain hkeys
  | .tuple _, hplain, _ => by cases hplain
  | .dict fields, hplain, hkeys => by
    rw [Value.hasDistinctKeys, Bool.and_eq_true, decide_eq_true_eq] at hkeys
    exact isRead_dict hkeys.1 fun hne =>
      fieldsAreRead_of_havePlainData fields hne hplain hkeys.2
  | .position _, hplain, _ => by cases hplain
  | .port _, hplain, _ => by cases hplain

theorem areRead_of_arePlainData : ∀ items : List Value, items ≠ [] →
    Value.arePlainData items = true → Value.haveDistinctKeys items = true →
      AreRead items
  | [], hne, _, _ => absurd rfl hne
  | item :: items, _, hplain, hkeys => by
    have hparts := hplain
    rw [Value.arePlainData, Bool.and_eq_true] at hparts
    rw [Value.haveDistinctKeys, Bool.and_eq_true] at hkeys
    exact areRead_cons hplain (isRead_of_isPlainData item hparts.1 hkeys.1)
      fun hne => areRead_of_arePlainData items hne hparts.2 hkeys.2

theorem fieldsAreRead_of_havePlainData :
    ∀ fields : List (String × Value), fields ≠ [] →
    Value.havePlainData fields = true →
      Value.fieldsHaveDistinctKeys fields = true →
    FieldsAreRead fields
  | [], hne, _, _ => absurd rfl hne
  | (key, data) :: fields, _, hplain, hkeys => by
    rw [Value.havePlainData, Bool.and_eq_true] at hplain
    rw [Value.fieldsHaveDistinctKeys, Bool.and_eq_true] at hkeys
    exact fieldsAreRead_cons hplain.1
      (isRead_of_isPlainData data hplain.1 hkeys.1) fun hne =>
        fieldsAreRead_of_havePlainData fields hne hplain.2 hkeys.2

end

end Values

/-- What is read of a stored text is what is read of its characters. -/
theorem read_write_eq {document : Value}
    (hplain : document.isPlainData = true) :
    (Source.text (write .stored document)).read =
      (readCharacters (characters .stored document [])).mapError
        (.ofFailure (characters .stored document [])) := by
  obtain ⟨first, after, htext, -, -, hmark⟩ :=
    opens_characters hplain Closes.nil
  rw [Source.read, readText, toList_write, htext]
  split
  · next heq => exact absurd (List.cons.inj heq).1 hmark
  · rfl

section Documents

variable {document : Value} (hplain : document.isPlainData = true)
  (hkeys : document.hasDistinctKeys = true)

include hplain hkeys

theorem isReadAs_write : IsReadAs document.isSpellable document []
    (value (2 * (characters .stored document []).length + 1)
      (characters .stored document [])) :=
  isRead_of_isPlainData document hplain hkeys .nil (by omega)

/-- A stored text is read as the document that was written. -/
theorem read_write (hspellable : document.isSpellable = true) :
    (Source.text (write .stored document)).read = .ok document := by
  have hvalue := isReadAs_write hplain hkeys
  rw [hspellable, IsReadAs, if_pos rfl] at hvalue
  rw [read_write_eq hplain, readCharacters,
    (opens_characters hplain Closes.nil).skipBlank, hvalue]
  rfl

/-- A stored text with an integer without a numeral is not read. -/
theorem read_write_of_not_isSpellable
    (hspellable : document.isSpellable = false) :
    ∃ digits, (Source.text (write .stored document)).read =
      .error (.oversizedInteger digits) := by
  have hvalue := isReadAs_write hplain hkeys
  rw [hspellable, IsReadAs, if_neg Bool.false_ne_true] at hvalue
  obtain ⟨digits, remaining, hvalue⟩ := hvalue
  refine ⟨digits, ?_⟩
  rw [read_write_eq hplain, readCharacters,
    (opens_characters hplain Closes.nil).skipBlank, hvalue]
  rfl

end Documents

end StoryGraph.Json
