import Mathlib.Data.List.TakeWhile
import StoryGraph.Condition

/-!
# Comparisons in trigger expressions

A trigger expression may compare what a context holds under a key with a text:
a key, an operator and the text, with any blanks around and between them.  It
passes exactly when the condition node with the same key, operator and text
does.
-/

namespace StoryGraph

namespace Text

/-! ## Splitting at the end of a class of characters -/

section Split

variable {inside : Char → Bool} {word rest : List Char}
variable (hword : ∀ character ∈ word, inside character = true)
  (hrest : ∀ character ∈ rest.head?, inside character = false)

include hword hrest

theorem takeWhile_append : (word ++ rest).takeWhile inside = word := by
  rw [List.takeWhile_append_of_pos hword]
  cases rest with
  | nil => simp
  | cons character rest => simp [hrest character rfl]

theorem dropWhile_append : (word ++ rest).dropWhile inside = rest := by
  rw [List.dropWhile_append_of_pos hword]
  cases rest with
  | nil => rfl
  | cons character rest => simp [hrest character rfl]

end Split

/-- The first character that is not dropped. -/
theorem not_of_head?_dropWhile {drops : Char → Bool} {characters : List Char}
    {first : Char}
    (hfirst : (characters.dropWhile drops).head? = some first) :
    drops first = false := by
  have hnot := List.head?_dropWhile_not drops characters
  rwa [hfirst] at hnot

theorem toList_ne_nil {text : String}
    (hfilled : text ≠ "") : text.toList ≠ [] :=
  fun hnil => hfilled (String.toList_eq_nil_iff.mp hnil)

/-! ## Gaps, words and phrases -/

/-- The text is a run of blanks, which may be empty. -/
def AllBlank (text : String) : Prop :=
  ∀ character ∈ text.toList, isBlank character = true

instance (text : String) : Decidable (AllBlank text) := List.decidableBAll _ _

/-- The text is a run of at least one blank. -/
def IsGap (text : String) : Prop := text ≠ "" ∧ AllBlank text

instance (text : String) : Decidable (IsGap text) :=
  inferInstanceAs (Decidable (_ ∧ _))

/-- The text is not empty and holds no blank. -/
def IsWord (text : String) : Prop :=
  text ≠ "" ∧ ∀ character ∈ text.toList, isBlank character = false

instance (text : String) : Decidable (IsWord text) :=
  @instDecidableAnd _ _ inferInstance (List.decidableBAll _ _)

/-- The text is not empty, and neither its first nor its last character is a
blank. -/
structure IsPhrase (text : String) : Prop where
  filled : text ≠ ""
  first : ∀ character ∈ text.toList.head?, isBlank character = false
  last : ∀ character ∈ text.toList.getLast?, isBlank character = false

theorem IsWord.phrase {text : String}
    (hword : IsWord text) : IsPhrase text where
  filled := hword.1
  first character hfirst := hword.2 character (List.mem_of_head? hfirst)
  last character hlast := hword.2 character (List.mem_of_getLast? hlast)

theorem IsWord.solid {text : String} (hword : IsWord text) :
    ∀ character ∈ text.toList, (!isBlank character) = true :=
  fun character hmem => by rw [hword.2 character hmem, Bool.not_false]

/-- A gap begins with a blank, whatever follows it. -/
theorem IsGap.head?_append {gap : String} (hgap : IsGap gap)
    (rest : List Char) :
    ∀ character ∈ (gap.toList ++ rest).head?, (!isBlank character) = false := by
  have hsome : gap.toList.head?.isSome := by simp [hgap.1]
  rw [List.head?_append, Option.or_of_isSome hsome]
  intro character hfirst
  rw [hgap.2 character (List.mem_of_head? hfirst), Bool.not_true]

namespace IsPhrase

variable {phrase : String} (hphrase : IsPhrase phrase)

include hphrase

theorem head?_append (rest : List Char) :
    ∀ character ∈ (phrase.toList ++ rest).head?, isBlank character = false := by
  have hsome : phrase.toList.head?.isSome := by simp [hphrase.filled]
  rw [List.head?_append, Option.or_of_isSome hsome]
  exact hphrase.first

/-- A text that begins and ends with a phrase is one. -/
theorem append (middle : String) {last : String} (hlast : IsPhrase last) :
    IsPhrase (phrase ++ middle ++ last) where
  filled := by simp [hphrase.filled]
  first := by
    rw [String.append_assoc, String.toList_append]
    exact hphrase.head?_append _
  last := by
    have hsome : last.toList.getLast?.isSome := by simp [hlast.filled]
    rw [String.toList_append, List.getLast?_append, Option.or_of_isSome hsome]
    exact hlast.last

theorem stripList_append {before after : String} (hbefore : AllBlank before)
    (hafter : AllBlank after) :
    stripList isBlank (before ++ phrase ++ after).toList = phrase.toList := by
  have hreverse :
      ∀ character ∈ after.toList.reverse, isBlank character = true :=
    fun character hmem => hafter character (List.mem_reverse.mp hmem)
  have hlast := hphrase.last
  rw [← List.head?_reverse] at hlast
  rw [String.append_assoc, String.toList_append, String.toList_append,
    stripList, dropWhile_append hbefore (hphrase.head?_append _),
    List.reverse_append, dropWhile_append hreverse hlast, List.reverse_reverse]

/-- A phrase has no outer blanks. -/
theorem stripList_self : stripList isBlank phrase.toList = phrase.toList := by
  have hblank : AllBlank "" := by simp [AllBlank]
  simpa using hphrase.stripList_append hblank hblank

/-- Only the blanks around a phrase are trimmed. -/
theorem trim_append {before after : String} (hbefore : AllBlank before)
    (hafter : AllBlank after) : trim (before ++ phrase ++ after) = phrase := by
  rw [trim, hphrase.stripList_append hbefore hafter, String.ofList_toList]

end IsPhrase

/-- A text is split at the first two gaps in it. -/
theorem threeWords?_append {key gap word space value : String}
    (hkey : IsWord key) (hgap : IsGap gap) (hword : IsWord word)
    (hspace : IsGap space) (hvalue : IsPhrase value) :
    threeWords? (key ++ (gap ++ word ++ space) ++ value) =
      some (key, word, value) := by
  have hstrip :
      stripList isBlank (key ++ (gap ++ word ++ space) ++ value).toList =
        key.toList ++
          (gap.toList ++ (word.toList ++ (space.toList ++ value.toList))) := by
    rw [(hkey.phrase.append (gap ++ word ++ space) hvalue).stripList_self]
    simp only [String.toList_append, List.append_assoc]
  simp only [threeWords?, hstrip,
    takeWhile_append hkey.solid (hgap.head?_append _),
    dropWhile_append hkey.solid (hgap.head?_append _),
    dropWhile_append hgap.2 (hword.phrase.head?_append _),
    takeWhile_append hword.solid (hspace.head?_append _),
    dropWhile_append hword.solid (hspace.head?_append _),
    dropWhile_append hspace.2 hvalue.first, String.ofList_toList]
  simp [hkey.1, hword.1, hvalue.filled]

/-- A text is split at its first colon, which has the one part before it and the
other one after it. -/
theorem atColon?_eq_some {text word name : String} :
    atColon? text = some (word, name) ↔
      text = word ++ ":" ++ name ∧ ':' ∉ word.toList := by
  constructor
  · intro hcolon
    unfold atColon? at hcolon
    cases hrest : text.toList.dropWhile (· != ':') with
    | nil => simp [hrest] at hcolon
    | cons first rest =>
      have hfirst : (text.toList.dropWhile (· != ':')).head? = some first := by
        rw [hrest]; rfl
      obtain rfl : first = ':' := by simpa using not_of_head?_dropWhile hfirst
      simp only [hrest, Option.some.injEq, Prod.mk.injEq] at hcolon
      obtain ⟨rfl, rfl⟩ := hcolon
      constructor
      · have hparts :=
          List.takeWhile_append_dropWhile (p := (· != ':')) (l := text.toList)
        rw [← String.toList_inj]
        simpa [hrest] using hparts.symm
      · rw [String.toList_ofList]
        intro hmem
        simpa using List.mem_takeWhile_imp hmem
  · rintro ⟨rfl, hword⟩
    have hinside : ∀ character ∈ word.toList, (character != ':') = true := by
      intro character hmem
      simpa using fun heq : character = ':' => hword (heq ▸ hmem)
    have houtside :
        ∀ character ∈ (':' :: name.toList).head?,
          (character != ':') = false := by
      simp
    have hlist : (word ++ ":" ++ name).toList =
        word.toList ++ ':' :: name.toList := by
      simp
    simp only [atColon?, hlist, takeWhile_append hinside houtside,
      dropWhile_append hinside houtside, String.ofList_toList]

end Text

/-! ## Operators -/

namespace Operator

/-- The operator is written as its name or as one of the symbols. -/
def IsSpelled (operator : Operator) (word : String) : Prop :=
  word = operator.word ∨ ofSymbol? word = some operator

instance (operator : Operator) (word : String) :
    Decidable (operator.IsSpelled word) :=
  inferInstanceAs (Decidable (_ ∨ _))

variable {operator : Operator} {word : String}

theorem IsSpelled.read (hspelled : operator.IsSpelled word) :
    (ofSymbol? word).or (ofWord? word) = some operator := by
  rcases hspelled with rfl | hsymbol
  · cases operator <;> decide
  · rw [hsymbol, Option.some_or]

/-- No spelling of an operator holds a blank. -/
theorem IsSpelled.isWord
    (hspelled : operator.IsSpelled word) : Text.IsWord word := by
  rcases hspelled with rfl | hsymbol
  · cases operator <;> decide +kernel
  · unfold ofSymbol? at hsymbol
    split at hsymbol
    case h_7 => cases hsymbol
    all_goals decide +kernel

end Operator

namespace Trigger

open Text

/-! ## Failing triggers -/

/-- The trigger compares two values that cannot be compared, and one of them
cannot be shown. -/
def CannotShow (trigger : Trigger) (context : Context) : Prop :=
  match trigger with
  | comparison key operator text =>
    Condition.CannotShow operator (context.lookup key) (.str text)
  | _ => False

section Holds

variable {trigger : Trigger} {context : Context}

theorem holds_eq_error_iff {error : ConditionError} :
    trigger.holds context = .error error ↔
      error = .unspellable ∧ trigger.CannotShow context := by
  cases trigger with
  | comparison key operator text => exact Condition.compare_eq_error_iff
  | constant | flag | «variable» => simp [holds, CannotShow]

theorem exists_holds_iff :
    (∃ passed, trigger.holds context = .ok passed) ↔
      ¬ trigger.CannotShow context := by
  cases hholds : trigger.holds context with
  | ok passed =>
    have hshown : ¬ trigger.CannotShow context := by
      intro hcannot
      rw [holds_eq_error_iff.mpr ⟨rfl, hcannot⟩] at hholds
      cases hholds
    simp [hshown]
  | error error => simp [(holds_eq_error_iff.mp hholds).2]

end Holds

/-- No expression is refused for a value that cannot be shown. -/
theorem parse_ne_unspellable (text : String) :
    parse text ≠ .error .unspellable := by
  have hreference (word name : String) : ofReference word name ≠
      .error .unspellable := by
        unfold ofReference
        split <;> exact nofun
  have hwords (expression : String) : ofWords expression ≠
      .error .unspellable := by
        unfold ofWords
        split
        · exact nofun
        · split <;> exact nofun
  simp only [parse]
  split
  · exact nofun
  · split
    · exact nofun
    · split
      · exact hreference _ _
      · exact hwords _

/-! ## References and comparisons -/

/-- A colon of the text has a character after it. -/
def HasName (text : String) : Prop :=
  ∃ before name : String, text = before ++ ":" ++ name ∧ name ≠ ""

theorem HasName.colon_mem {text : String}
    (hnamed : HasName text) : ':' ∈ text.toList := by
  obtain ⟨before, name, rfl, -⟩ := hnamed
  simp

/-- If a name follows any colon, then one follows the first colon. -/
theorem HasName.first {text : String} (hnamed : HasName text) :
    ∃ word name : String, text = word ++ ":" ++ name ∧ ':' ∉ word.toList ∧
      name ≠ "" := by
  obtain ⟨before, name, rfl, hname⟩ := hnamed
  by_cases hcolon : ':' ∈ before.toList
  · obtain ⟨word, rest, hsplit, hword⟩ := List.eq_append_cons_of_mem hcolon
    refine ⟨String.ofList word, String.ofList rest ++ ":" ++ name,
      ?_, by simpa using hword,
      by simp⟩
    rw [← String.toList_inj]
    simp [hsplit]
  · exact ⟨before, name, rfl, hcolon, hname⟩

/-- A reference is split at its first colon, which a name follows, and has no
space. -/
theorem reference?_eq_some {text word name : String} :
    reference? text = some (word, name) ↔
      text = word ++ ":" ++ name ∧ ':' ∉ word.toList ∧ name ≠ "" ∧
        ' ' ∉ text.toList := by
  rw [← and_assoc, ← atColon?_eq_some, reference?]
  split
  · next first rest hcolon =>
    simp only [hcolon, Option.ite_none_left_eq_some, Option.some.injEq,
      Prod.mk.injEq, Bool.or_eq_true, not_or, decide_eq_true_eq,
      List.contains_iff_mem]
    constructor
    · rintro ⟨⟨hname, hplain⟩, rfl, rfl⟩
      exact ⟨⟨rfl, rfl⟩, hname, hplain⟩
    · rintro ⟨⟨rfl, rfl⟩, hname, hplain⟩
      exact ⟨⟨hname, hplain⟩, rfl, rfl⟩
  · next hcolon => simp [hcolon]

/-- A text with a space, or without a name after a colon, is no reference. -/
theorem reference?_eq_none_iff {text : String} :
    reference? text = none ↔ ' ' ∈ text.toList ∨ ¬ HasName text := by
  constructor
  · intro hnone
    by_contra hwritten
    rw [not_or, not_not] at hwritten
    obtain ⟨word, name, htext, hword, hname⟩ := hwritten.2.first
    rw [reference?_eq_some.mpr ⟨htext, hword, hname, hwritten.1⟩] at hnone
    cases hnone
  · intro hwritten
    cases hreference : reference? text with
    | none => rfl
    | some parts =>
      obtain ⟨htext, -, hname, hplain⟩ := reference?_eq_some.mp hreference
      exact (hwritten.elim hplain fun hnone => hnone ⟨_, _, htext, hname⟩).elim

section Comparison

variable {key gap word space value : String} {operator : Operator}
variable (hkey : IsWord key) (hgap : IsGap gap)
  (hoperator : operator.IsSpelled word)
  (hspace : IsGap space) (hvalue : IsPhrase value)

include hkey hgap hoperator hspace hvalue

/-- A comparison is read with its own key, operator and text, unless it looks
like a reference. -/
theorem parse_comparison {text : String}
    (htrim : trim text = key ++ (gap ++ word ++ space) ++ value)
    (hplain : reference? (key ++ (gap ++ word ++ space) ++ value) = none) :
    parse text = .ok (.comparison key operator value) := by
  have hphrase := hkey.phrase.append (gap ++ word ++ space) hvalue
  -- The constants are words, and the first gap of the comparison is none of a
  -- word.
  have hconstant {constant : String} (hconstant : IsWord constant) :
      key ++ (gap ++ word ++ space) ++ value ≠ constant := by
    rintro rfl
    obtain ⟨blank, hblank⟩ := List.exists_mem_of_ne_nil _ (toList_ne_nil hgap.1)
    have hsolid := hconstant.2 blank (by simp [hblank])
    rw [hgap.2 blank hblank] at hsolid
    cases hsolid
  have halways : IsWord "always" := by decide +kernel
  have hnever : IsWord "never" := by decide +kernel
  have hread := hoperator.read
  simp only [parse, htrim, hphrase.filled, hconstant halways, hconstant hnever,
    hplain, ofWords,
    threeWords?_append hkey hgap hoperator.isWord hspace hvalue, hread]
  rfl

/-- A comparison in a trigger expression gives what the condition node with the
same key, operator and text gives: around the key, the operator and the text may
stand any blanks, unless the whole has a colon and no space, which makes it a
reference.  Both give a truth value, unless the two values cannot be compared
and one of them cannot be shown: then both fail alike. -/
theorem evaluate_comparison {before after : String} (hbefore : AllBlank before)
    (hafter : AllBlank after)
    (hwritten :
      ' ' ∈ (trim (before ++ key ++ gap ++ word ++ space ++ value ++
        after)).toList ∨
      ':' ∉ (trim (before ++ key ++ gap ++ word ++ space ++ value ++
        after)).toList)
    (context : Context) :
    evaluate (before ++ key ++ gap ++ word ++ space ++ value ++ after) context =
      Condition.evaluate .variable operator (.str value) key context ∧
    (¬ Condition.CannotShow operator (context.lookup key) (.str value) →
      ∃ passed,
        evaluate (before ++ key ++ gap ++ word ++ space ++ value ++ after)
          context = .ok passed ∧
        Condition.evaluate .variable operator (.str value) key context =
          .ok passed) := by
  have htext : before ++ key ++ gap ++ word ++ space ++ value ++ after =
      before ++ (key ++ (gap ++ word ++ space) ++ value) ++ after := by
    simp only [String.append_assoc]
  have hphrase := hkey.phrase.append (gap ++ word ++ space) hvalue
  have htrim := hphrase.trim_append hbefore hafter
  rw [htext, htrim] at hwritten
  have hparse := parse_comparison hkey hgap hoperator hspace hvalue htrim
    (reference?_eq_none_iff.mpr (hwritten.imp_right (mt HasName.colon_mem)))
  have htrigger :
      evaluate (before ++ key ++ gap ++ word ++ space ++ value ++ after)
        context = Condition.compare operator (context.lookup key)
        (.str value) := by
    rw [htext, evaluate, hparse]
    rfl
  have hcondition :
      Condition.evaluate .variable operator (.str value) key context =
        Condition.compare operator (context.lookup key) (.str value) := by
    rw [Condition.evaluate, if_neg (by decide), if_neg hkey.1]
    rfl
  rw [htrigger, hcondition]
  exact ⟨rfl, fun hshown => ⟨_, Condition.compare_of_not_cannotShow hshown,
    Condition.compare_of_not_cannotShow hshown⟩⟩

end Comparison

/-- A context whose key looks like a reference. -/
def gated : Context := Context.empty.setVariable "flag:gate" (.str "two keys")

theorem gate_comparison :
    evaluate "\tflag:gate\u3000==\u2003two keys\n" gated = .ok true ∧
      Condition.evaluate .variable .equals (.str "two keys") "flag:gate" gated =
        .ok true := by
  have hvalue : IsPhrase "two keys" :=
    ⟨by decide, by rintro _ ⟨⟩; decide, by rintro _ ⟨⟩; decide⟩
  obtain ⟨hequal, -⟩ :=
    @evaluate_comparison "flag:gate" "\u3000" "==" "\u2003" "two keys" .equals
      (by decide +kernel) (by decide +kernel) (by decide)
      (by decide +kernel) hvalue
      "\t" "\n" (by decide +kernel) (by decide +kernel)
        (by decide +kernel) gated
  have hpasses :
      Condition.evaluate .variable .equals (.str "two keys") "flag:gate" gated =
        .ok true := by
    decide +kernel
  exact ⟨hequal.trans hpasses, hpasses⟩

end Trigger

end StoryGraph
