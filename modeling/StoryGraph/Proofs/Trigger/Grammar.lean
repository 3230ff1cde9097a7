import StoryGraph.Proofs.Comparison
import StoryGraph.Proofs.Trigger

/-!
# The grammar of trigger expressions

What a trigger expression says is settled by its text alone.  A grammar lists
the forms that an expression without its outer blanks may have, and the reader
accepts exactly these forms.  A text of no form is refused in every context with
the same error.
-/

namespace StoryGraph

namespace Text

/-! ## Splitting a text -/

/-- What is left of a text without its outer blanks is a phrase. -/
theorem isPhrase_trim {text : String}
    (hfilled : trim text ≠ "") : IsPhrase (trim text) where
  filled := hfilled
  first character hfirst := by
    rw [trim, String.toList_ofList] at hfirst
    have hprefix :
        stripList isBlank text.toList <+: text.toList.dropWhile isBlank := by
      rw [stripList, ← List.reverse_suffix, List.reverse_reverse]
      exact List.dropWhile_suffix isBlank
    obtain ⟨rest, hrest⟩ := hprefix
    have hhead : (text.toList.dropWhile isBlank).head? = some character := by
      rw [← hrest, List.head?_append, hfirst, Option.some_or]
    exact not_of_head?_dropWhile hhead
  last character hlast := by
    rw [trim, String.toList_ofList, stripList, List.getLast?_reverse] at hlast
    exact not_of_head?_dropWhile hlast

theorem isWord_takeWhile {characters : List Char}
    (hfilled : characters.takeWhile (!isBlank ·) ≠ []) :
    IsWord (String.ofList (characters.takeWhile (!isBlank ·))) := by
  refine ⟨by simpa using hfilled, fun character hmem => ?_⟩
  rw [String.toList_ofList] at hmem
  simpa using List.mem_takeWhile_imp hmem

/-- Where a word ends and the text does not, a gap begins. -/
theorem isGap_takeWhile {characters : List Char}
    (hfilled : characters.dropWhile (!isBlank ·) ≠ []) :
    IsGap (String.ofList
      ((characters.dropWhile (!isBlank ·)).takeWhile isBlank)) := by
  refine ⟨?_, fun character hmem => ?_⟩
  · cases hrest : characters.dropWhile (!isBlank ·) with
    | nil => exact (hfilled hrest).elim
    | cons first rest =>
      have hblank : isBlank first = true := by
        have hfirst :
            (characters.dropWhile (!isBlank ·)).head? = some first := by
          rw [hrest]; rfl
        simpa using not_of_head?_dropWhile hfirst
      simp [hblank]
  · rw [String.toList_ofList] at hmem
    exact List.mem_takeWhile_imp hmem

/-- The rest of a phrase after some blanks is a phrase. -/
theorem IsPhrase.dropWhile {phrase : String} (hphrase : IsPhrase phrase)
    {rest : List Char} (hend : rest <:+ phrase.toList)
    (hfilled : rest.dropWhile isBlank ≠ []) :
    IsPhrase (String.ofList (rest.dropWhile isBlank)) where
  filled := by simpa using hfilled
  first character hfirst := by
    rw [String.toList_ofList] at hfirst
    exact not_of_head?_dropWhile hfirst
  last character hlast := by
    rw [String.toList_ofList, Option.mem_def] at hlast
    obtain ⟨front, hfront⟩ := (List.dropWhile_suffix isBlank).trans hend
    refine hphrase.last character ?_
    rw [← hfront, List.getLast?_append, hlast, Option.some_or, Option.mem_def]

/-- A phrase that is split into three words consists of them and of two gaps. -/
theorem IsPhrase.of_threeWords? {phrase key word value : String}
    (hphrase : IsPhrase phrase)
    (hwords : threeWords? phrase = some (key, word, value)) :
    ∃ gap space, phrase = key ++ (gap ++ word ++ space) ++ value ∧
      IsWord key ∧ IsGap gap ∧ IsWord word ∧ IsGap space ∧ IsPhrase value := by
  simp only [threeWords?, hphrase.stripList_self, Option.ite_none_left_eq_some,
    Bool.or_eq_true, List.isEmpty_iff, not_or, Option.some.injEq,
    Prod.mk.injEq] at hwords
  obtain ⟨⟨⟨hkey, hword⟩, hvalue⟩, rfl, rfl, rfl⟩ := hwords
  generalize hafter : (phrase.toList.dropWhile (!isBlank ·)).dropWhile isBlank =
    after at *
  have hgap : phrase.toList.dropWhile (!isBlank ·) ≠ [] := by
    intro hnil
    rw [hnil] at hafter
    subst hafter
    exact hword rfl
  have hspace : after.dropWhile (!isBlank ·) ≠ [] := by
    intro hnil
    rw [hnil] at hvalue
    exact hvalue rfl
  have hparts :
      phrase.toList = phrase.toList.takeWhile (!isBlank ·) ++
        ((phrase.toList.dropWhile (!isBlank ·)).takeWhile isBlank ++
          (after.takeWhile (!isBlank ·) ++
            ((after.dropWhile (!isBlank ·)).takeWhile isBlank ++
              (after.dropWhile (!isBlank ·)).dropWhile isBlank))) := by
    simp only [List.takeWhile_append_dropWhile, ← hafter]
  have hend : after.dropWhile (!isBlank ·) <:+ phrase.toList :=
    (List.dropWhile_suffix _).trans
      (hafter ▸ (List.dropWhile_suffix _).trans (List.dropWhile_suffix _))
  refine ⟨_, _, ?_, isWord_takeWhile hkey, isGap_takeWhile hgap,
    isWord_takeWhile hword, isGap_takeWhile hspace,
    hphrase.dropWhile hend hvalue⟩
  rw [← String.toList_inj]
  simpa only [String.toList_append, String.toList_ofList, List.append_assoc]
    using hparts

end Text

theorem Operator.isSpelled_of_read {operator : Operator} {word : String}
    (hread : (ofSymbol? word).or (ofWord? word) = some operator) :
    operator.IsSpelled word := by
  rw [Option.or_eq_some_iff] at hread
  rcases hread with hsymbol | ⟨-, hword⟩
  · exact .inr hsymbol
  · have hword := List.find?_some hword
    exact .inl (eq_of_beq hword).symm

namespace Trigger

open Text

/-! ## The forms of expressions -/

/-- The text, which has no outer blanks, says what the trigger does.  A text
with a name after a colon and without a space is a reference and never a
comparison. -/
inductive Reads : String → Trigger → Prop where
  | empty : Reads "" (.constant true)
  | always : Reads "always" (.constant true)
  | never : Reads "never" (.constant false)
  | flag {name : String} (hname : name ≠ "") (hplain : ' ' ∉ name.toList) :
    Reads ("flag" ++ ":" ++ name) (.flag name true)
  | notFlag {name : String} (hname : name ≠ "") (hplain : ' ' ∉ name.toList) :
    Reads ("not_flag" ++ ":" ++ name) (.flag name false)
  | variable {name : String} (hname : name ≠ "") (hplain : ' ' ∉ name.toList) :
    Reads ("variable" ++ ":" ++ name) (.variable name)
  | comparison {key gap word space value : String} {operator : Operator}
    (hkey : IsWord key) (hgap : IsGap gap) (hoperator : operator.IsSpelled word)
    (hspace : IsGap space) (hvalue : IsPhrase value)
    (hwritten : ' ' ∈ (key ++ (gap ++ word ++ space) ++ value).toList ∨
      ¬ HasName (key ++ (gap ++ word ++ space) ++ value)) :
    Reads (key ++ (gap ++ word ++ space) ++ value)
      (.comparison key operator value)

/-- A reference is accepted if its word is one of three. -/
theorem ofReference_eq_ok {word name : String} {trigger : Trigger}
    (hreference : ofReference word name = .ok trigger) (hname : name ≠ "")
    (hplain : ' ' ∉ (word ++ ":" ++ name).toList) :
    Reads (word ++ ":" ++ name) trigger := by
  have hspaceless : ' ' ∉ name.toList := fun hmem => hplain (by simp [hmem])
  unfold ofReference at hreference
  split at hreference
  · cases hreference
    exact .flag hname hspaceless
  · cases hreference
    exact .notFlag hname hspaceless
  · cases hreference
    exact .variable hname hspaceless
  · cases hreference

theorem ofWords_eq_ok {phrase : String} {trigger : Trigger}
    (hwords : ofWords phrase = .ok trigger) (hphrase : IsPhrase phrase)
    (hwritten : ' ' ∈ phrase.toList ∨ ¬ HasName phrase) :
    Reads phrase trigger := by
  unfold ofWords at hwords
  split at hwords
  · cases hwords
  · next key word value hthree =>
    split at hwords
    · next operator hread =>
      cases hwords
      obtain ⟨gap, space, rfl, hkey, hgap, -, hspace, hvalue⟩ :=
        hphrase.of_threeWords? hthree
      exact .comparison hkey hgap (Operator.isSpelled_of_read hread) hspace
        hvalue hwritten
    · cases hwords

theorem reads_of_parse {text : String} {trigger : Trigger}
    (hparse : parse text = .ok trigger) : Reads (trim text) trigger := by
  simp only [parse] at hparse
  split at hparse
  · next hconstant =>
    cases hparse
    rcases Bool.or_eq_true_iff.mp hconstant with hempty | halways
    · exact of_decide_eq_true hempty ▸ .empty
    · exact of_decide_eq_true halways ▸ .always
  · next hconstant =>
    have hfilled : trim text ≠ "" := fun hempty => hconstant (by simp [hempty])
    split at hparse
    · next hnever =>
      cases hparse
      exact hnever ▸ .never
    · split at hparse
      · next word name hreference =>
        obtain ⟨htext, -, hname, hplain⟩ := reference?_eq_some.mp hreference
        rw [htext] at hplain ⊢
        exact ofReference_eq_ok hparse hname hplain
      · next hreference =>
        exact ofWords_eq_ok hparse (isPhrase_trim hfilled)
          (reference?_eq_none_iff.mp hreference)

/-- A reference has a colon, so it is none of the constants. -/
theorem parse_reference {text word name : String}
    (htrim : trim text = word ++ ":" ++ name) (hword : ':' ∉ word.toList)
    (hname : name ≠ "") (hspaceless : ' ' ∉ word.toList)
    (hplain : ' ' ∉ name.toList) : parse text = ofReference word name := by
  have hconstant {constant : String} (hcolonless : ':' ∉ constant.toList) :
      word ++ ":" ++ name ≠ constant := by
    rintro rfl
    simp at hcolonless
  have hwhole : ' ' ∉ (word ++ ":" ++ name).toList := by
    simp [hspaceless, hplain]
  have hreference := reference?_eq_some.mpr ⟨rfl, hword, hname, hwhole⟩
  have hempty := @hconstant "" (by decide)
  have halways := @hconstant "always" (by decide)
  have hnever := @hconstant "never" (by decide)
  simp [parse, htrim, hempty, halways, hnever, hreference]

theorem Reads.parse {text : String} {trigger : Trigger}
    (hreads : Reads (trim text) trigger) : parse text = .ok trigger := by
  generalize htrim : trim text = expression at hreads
  cases hreads with
  | empty | always | never => simp [Trigger.parse, htrim]
  | flag hname hplain | notFlag hname hplain | «variable» hname hplain =>
    exact parse_reference htrim (by decide) hname (by decide) hplain
  | comparison hkey hgap hoperator hspace hvalue hwritten =>
    exact parse_comparison hkey hgap hoperator hspace hvalue htrim
      (reference?_eq_none_iff.mpr hwritten)

/-- The expressions that are read are those of one of the forms. -/
theorem parse_eq_ok_iff {text : String} {trigger : Trigger} :
    parse text = .ok trigger ↔ Reads (trim text) trigger :=
  ⟨reads_of_parse, Reads.parse⟩

example : parse "door:\t==\topen" = .error (.unknownReference "door") := by
  decide +kernel

example :
    parse "door\t==\topen:" = .ok (.comparison "door" .equals "open:") := by
  decide +kernel

theorem evaluate_of_parse {text : String} {trigger : Trigger}
    (hparse : parse text = .ok trigger) (context : Context) :
    evaluate text context = trigger.holds context := by
  rw [evaluate, hparse]
  rfl

theorem evaluate_of_error {text : String} {error : ConditionError}
    (hparse : parse text = .error error) (context : Context) :
    evaluate text context = .error error := by
  rw [evaluate, hparse]
  rfl

/-- An expression is read in every context or in none.  In the former case it
has one of the forms, and gives a truth value in a context unless it compares
values there that cannot be shown; then it fails with an error of its own.  In
the latter case every context gives the same error, which is another one. -/
theorem evaluate_grammar (text : String) :
    (∀ context passed, evaluate text context = .ok passed ↔
      ∃ trigger, Reads (trim text) trigger ∧
        trigger.holds context = .ok passed) ∧
    (∀ context, (∃ passed, evaluate text context = .ok passed) ↔
      ∃ trigger, Reads (trim text) trigger ∧ ¬ trigger.CannotShow context) ∧
    (∀ context, evaluate text context = .error .unspellable ↔
      ∃ trigger, Reads (trim text) trigger ∧ trigger.CannotShow context) ∧
    (∀ context,
      (∃ error, error ≠ .unspellable ∧ evaluate text context = .error error) ↔
        ¬ ∃ trigger, Reads (trim text) trigger) ∧
    ∀ error context other,
      (error ≠ .unspellable ∧ evaluate text context = .error error) ↔
        (error ≠ .unspellable ∧ evaluate text other = .error error) := by
  simp only [← parse_eq_ok_iff]
  cases hparse : parse text with
  | error error =>
    have hother : error ≠ .unspellable := fun heq =>
      parse_ne_unspellable text (heq ▸ hparse)
    simp [evaluate_of_error hparse, hother]
  | ok trigger =>
    simp only [evaluate_of_parse hparse, exists_holds_iff, holds_eq_error_iff,
      Except.ok.injEq, exists_eq_left', exists_eq', implies_true, true_and]
    grind

theorem not_always_settled :
    ¬ ∀ text context, (∃ passed, evaluate text context = .ok passed) ∨
      ∃ error, error ≠ .unspellable ∧ evaluate text context = .error error := by
  intro hsettled
  have hparse : parse "x > abc" = .ok (.comparison "x" .greaterThan "abc") := by
    decide +kernel
  have hshown : (comparison "x" .greaterThan "abc").CannotShow
      (Context.empty.setVariable "x" (.int Numeral.leastUnspellable)) :=
    Condition.cannotShow_word Numeral.isSpellable_leastUnspellable
  have hfails := hsettled "x > abc"
    (Context.empty.setVariable "x" (.int Numeral.leastUnspellable))
  rw [evaluate_of_parse hparse, holds_eq_error_iff.mpr ⟨rfl, hshown⟩] at hfails
  simp at hfails

end Trigger

end StoryGraph
