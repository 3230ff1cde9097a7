import StoryGraph.Number.Decimal
import StoryGraph.Text.Blank
import StoryGraph.Text.DecimalDigit

/-!
# Reading numerals

Numerals are read from the whole of a text.  In authored conditions the digits
may be of any family, and single underscores may stand between them.  In typed
fields they are Latin digits; an underscore may stand between any two
characters there, but never beside another one.

No integer is read from or written as a numeral of more than `digitBound`
digits, wherever the numeral stands.  Floating point numerals have no bound.
-/

namespace StoryGraph.Numeral

/-- The numeral of an integer has no more digits. -/
def digitBound : Nat := 4300

/-- The least natural number that has no numeral. -/
@[irreducible]
def leastUnspellable : Nat := Nat.pow 10 digitBound

/-- Whether the integer has a numeral. -/
def isSpellable (number : Int) : Bool := number.natAbs < leastUnspellable

theorem isSpellable_leastUnspellable :
    isSpellable leastUnspellable = false := by
  simp [isSpellable]

/-- Why an integer is not written as a numeral, or a numeral not read as an
integer. -/
inductive Fault where
  | unspellable
  /-- The numeral has so many digits. -/
  | oversized (digits : Nat)
  deriving DecidableEq

def Fault.message (fault : Fault) : String :=
  let value := match fault with
    | unspellable => ""
    | oversized digits => ": value has " ++ toString digits ++ " digits"
  "Exceeds the limit (" ++ toString digitBound ++
    " digits) for integer string conversion" ++ value ++
    "; use sys.set_int_max_str_digits() to increase the limit"

/-- A way of reading digits at the start of a text: the digits, and what
follows them. -/
abbrev DigitReader := List Char → List Nat × List Char

/-- The longest run of digits with single underscores between them, and what
follows it. -/
def digitRun (digit? : Char → Option Nat) : DigitReader
  | [] => ([], [])
  | character :: '_' :: rest =>
    match digit? character with
    | none => ([], character :: '_' :: rest)
    | some digit =>
      match digitRun digit? rest with
      | ([], _) => ([digit], '_' :: rest)
      | (digits, after) => (digit :: digits, after)
  | character :: rest =>
    match digit? character with
    | none => ([], character :: rest)
    | some digit =>
      let (digits, after) := digitRun digit? rest
      (digit :: digits, after)

/-- Digits of any family, grouped by underscores. -/
def groupedDigits : DigitReader := digitRun Text.digitValue?

/-- Latin digits without underscores. -/
def latinDigits : DigitReader := fun characters =>
  ((characters.takeWhile Char.isDigit).map fun digit => digit.toNat - 0x30,
    characters.dropWhile Char.isDigit)

/-- The number with the given decimal digits, the leading one first. -/
def ofDigits (digits : List Nat) : Nat :=
  digits.foldl (fun total digit => 10 * total + digit) 0

/-- Whether a text has a minus sign, and the text after an optional sign. -/
def sign : List Char → Bool × List Char
  | '-' :: rest => (true, rest)
  | '+' :: rest => (false, rest)
  | rest => (false, rest)

def withSign (negative : Bool) (magnitude : Nat) : Int :=
  if negative then -(magnitude : Int) else magnitude

/-- Digits with an optional sign, whether that is a minus sign, and nothing
else. -/
def signedDigits? (digits : DigitReader) (characters : List Char) :
    Option (Bool × List Nat) :=
  let (negative, body) := sign characters
  match digits body with
  | (digit :: more, []) => some (negative, digit :: more)
  | _ => none

/-- An integer with an optional sign and any number of digits. -/
def integerOf? (digits : DigitReader) (characters : List Char) : Option Int :=
  (signedDigits? digits characters).map fun (negative, digits) =>
    withSign negative (ofDigits digits)

/-- The exponent part of a floating point numeral; an absent one is zero. -/
def exponent? (digits : DigitReader) : List Char → Option Int
  | [] => some 0
  | mark :: rest =>
    if mark == 'e' || mark == 'E' then integerOf? digits rest else none

/-- Digits with an optional point and exponent, as a decimal. -/
def decimal? (digits : DigitReader) (body : List Char) : Option Decimal :=
  let (whole, afterWhole) := digits body
  let (fraction, rest) := match afterWhole with
    | '.' :: afterPoint => digits afterPoint
    | _ => ([], afterWhole)
  if whole.isEmpty && fraction.isEmpty then none
  else (exponent? digits rest).map fun exponent =>
    ⟨ofDigits (whole ++ fraction), exponent - fraction.length⟩

/-- A floating point numeral with an optional sign, or one of the words for
infinity and for no number in any case. -/
def floatOf? (digits : DigitReader)
    (characters : List Char) : Option Binary64 :=
  let (negative, body) := sign characters
  let word := String.ofList (body.map Char.toLower)
  if word == "inf" || word == "infinity" then some (.infinity negative)
  else if word == "nan" then some .nan
  else (decimal? digits body).map (·.toBinary64 negative)

/-- An integer in an authored condition.  Leading zeros count as digits. -/
def integer? (text : String) : Option Int :=
  match signedDigits? groupedDigits (Text.trimNumeral text) with
  | some (negative, digits) =>
    if digits.length ≤ digitBound then
      some (withSign negative (ofDigits digits))
    else none
  | none => none

/-- A floating point number in an authored condition. -/
def float? (text : String) : Option Binary64 :=
  floatOf? groupedDigits (Text.trimNumeral text)

/-! ## Typed fields -/

/-- Whether two underscores follow each other. -/
def hasDoubleUnderscore : List Char → Bool
  | '_' :: '_' :: _ => true
  | _ :: rest => hasDoubleUnderscore rest
  | [] => false

/-- The characters without their underscores, if those are single ones inside
the text. -/
def ungrouped? (characters : List Char) : Option (List Char) :=
  if characters.head? == some '_' || characters.getLast? == some '_' ||
    hasDoubleUnderscore characters then none
  else some (characters.filter (· != '_'))

/-- Whether an integer can start with a character that is not a zero. -/
def startsInteger (character : Char) : Bool :=
  character == '-' || ('1' ≤ character && character ≤ '9')

/-- Skips zeros and underscores up to the first other character, which starts
an integer.  The last of them stays before a point and at the end. -/
def skipZeros? (last : Char) : List Char → Option (List Char)
  | [] => some [last]
  | character :: rest =>
    if character == '0' || character == '_' then skipZeros? character rest
    else if character == '.' then some (last :: character :: rest)
    else if startsInteger character then some (character :: rest)
    else none

/-- A numeral without the zeros that it starts with; a minus sign may follow
those. -/
def significant? : List Char → Option (List Char)
  | [] => none
  | character :: rest =>
    if character == '0' then skipZeros? character rest
    else if startsInteger character then some (character :: rest)
    else none

/-- An unsigned or negative numeral without the zeros that its digits start
with. -/
def significantSigned? : List Char → Option (List Char)
  | '-' :: rest => (significant? rest).map ('-' :: ·)
  | characters => significant? characters

/-- A numeral without a plus sign. -/
def withoutPlus? : List Char → Option (List Char)
  | '+' :: '-' :: _ => none
  | '+' :: rest => some rest
  | characters => some characters

/-- A numeral without a fraction that has zeros only. -/
def withoutZeroFraction (characters : List Char) : List Char :=
  match characters.dropWhile (· != '.') with
  | _ :: fraction =>
    if !fraction.isEmpty && fraction.all (· == '0') then
      characters.takeWhile (· != '.')
    else characters
  | [] => characters

/-- Whether a text has a minus sign, and the text after it. -/
def minusSign : List Char → Bool × List Char
  | '-' :: rest => (true, rest)
  | rest => (false, rest)

/-- Whether the text starts like an integer in its normal spelling that is too
long. -/
def isOversized (text : String) : Bool :=
  match latinDigits (minusSign text.toList).2 with
  | (digit :: digits, _) => digit != 0 && digitBound ≤ digits.length
  | _ => false

/-- An integer in its normal spelling: a minus sign or none, and digits that
start with a zero only if there is one digit. -/
def normalInteger? (characters : List Char) : Option Int :=
  let (negative, body) := minusSign characters
  match latinDigits body with
  | ([digit], []) => some (withSign negative digit)
  | (digit :: digits, []) =>
    if digit = 0 || digitBound ≤ digits.length then none
    else some (withSign negative (ofDigits (digit :: digits)))
  | _ => none

/-- An integer in a typed field.  A plus sign, leading zeros, underscores and a
fraction of zeros do not count. -/
def wholeNumber? (text : String) : Option Int := do
  let characters ← withoutPlus? (Text.trimNumeral text)
  let numeral ← significantSigned? characters
  normalInteger? (← ungrouped? (withoutZeroFraction numeral))

/-- A floating point number in a typed field.  Blanks around it and underscores
in it do not count, but a text may only have one of the two. -/
def realNumber? (text : String) : Option Binary64 :=
  (floatOf? latinDigits (Text.trimNumeral text)).or
    ((ungrouped? text.toList).bind (floatOf? latinDigits))

end StoryGraph.Numeral
