import StoryGraph.Number.Numeral
import StoryGraph.Table
import StoryGraph.Value.Basic

/-!
# Reading JSON texts

A reader of one JSON value that fills the whole text.  It also accepts the
words for numbers that are not finite.  A repeated key of an object keeps its
first place and its last value.  A failure is located by the number of
characters that were left when it was found.

Two failures are no faults of the syntax.  An integer of too many digits has no
value.  Half a surrogate pair is no character, so a text with one is outside
what a `String` can hold; what becomes of such a text is left open, and the
reader refuses it with a fault of its own.
-/

namespace StoryGraph.Json

inductive Fault where
  | expectingValue
  | expectingName
  | expectingColon
  | expectingComma
  | extraData
  | unterminatedString
  | controlCharacter
  | invalidEscape
  | invalidCodeEscape
  | byteOrderMark
  /-- An integer of too many digits. -/
  | oversizedInteger (digits : Nat)
  /-- Half a surrogate pair without the other half. -/
  | loneSurrogate
  deriving DecidableEq

def Fault.message : Fault → String
  | expectingValue => "Expecting value"
  | expectingName => "Expecting property name enclosed in double quotes"
  | expectingColon => "Expecting ':' delimiter"
  | expectingComma => "Expecting ',' delimiter"
  | extraData => "Extra data"
  | unterminatedString => "Unterminated string starting at"
  | controlCharacter => "Invalid control character at"
  | invalidEscape => "Invalid \\escape"
  | invalidCodeEscape => "Invalid \\uXXXX escape"
  | byteOrderMark => "Unexpected UTF-8 BOM (decode using utf-8-sig)"
  | oversizedInteger digits => (Numeral.Fault.oversized digits).message
  | loneSurrogate => ""

structure Failure where
  fault : Fault
  /-- Characters from the place of the fault to the end of the text. -/
  remaining : Nat
  deriving DecidableEq

/-- A result together with the characters after it. -/
abbrev Parsed (α : Type) := Except Failure (α × List Char)

def failAt {α : Type} (fault : Fault) (rest : List Char) : Except Failure α :=
  .error ⟨fault, rest.length⟩

def isBlank (character : Char) : Bool :=
  character == ' ' || character == '\t' || character == '\n' ||
    character == '\r'

def skipBlank (characters : List Char) : List Char :=
  characters.dropWhile isBlank

def hexValue? (character : Char) : Option Nat :=
  let code := character.toNat
  if 0x30 ≤ code && code ≤ 0x39 then some (code - 0x30)
  else if 0x61 ≤ code && code ≤ 0x66 then some (code - 0x57)
  else if 0x41 ≤ code && code ≤ 0x46 then some (code - 0x37)
  else none

/-- The code written with four hexadecimal digits. -/
def hexCode? (first second third fourth : Char) : Option Nat :=
  match hexValue? first, hexValue? second, hexValue? third,
    hexValue? fourth with
  | some a, some b, some c, some d => some (((a * 16 + b) * 16 + c) * 16 + d)
  | _, _, _, _ => none

def isHighSurrogate (code : Nat) : Bool := 0xD800 ≤ code && code ≤ 0xDBFF

def isLowSurrogate (code : Nat) : Bool := 0xDC00 ≤ code && code ≤ 0xDFFF

/-- The character of a code; half a surrogate pair is none. -/
def character? (code : Nat) : Option Char :=
  if isHighSurrogate code || isLowSurrogate code then none
  else some (Char.ofNat code)

def joinSurrogates (high low : Nat) : Char :=
  Char.ofNat (0x10000 + (high - 0xD800) * 0x400 + (low - 0xDC00))

/-- The character that follows a backslash, other than a code. -/
def escaped? : Char → Option Char
  | '"' => some '"'
  | '\\' => some '\\'
  | '/' => some '/'
  | 'b' => some '\x08'
  | 'f' => some '\x0c'
  | 'n' => some '\n'
  | 'r' => some '\r'
  | 't' => some '\t'
  | _ => none

/-- The second half of a surrogate pair, and what follows it.  At least one
more character has to follow. -/
def lowHalf? : List Char → Option (Nat × List Char)
  | '\\' :: 'u' :: a :: b :: c :: d :: next :: rest =>
    match hexCode? a b c d with
    | some code =>
      if isLowSurrogate code then some (code, next :: rest) else none
    | none => none
  | _ => none

theorem lowHalf?_shorter {characters rest : List Char} {code : Nat}
    (hhalf : lowHalf? characters = some (code, rest)) :
    rest.length < characters.length := by
  unfold lowHalf? at hhalf
  split at hhalf
  · split at hhalf
    · split at hhalf
      · simp only [Option.some.injEq, Prod.mk.injEq] at hhalf
        rw [← hhalf.2]
        simp only [List.length_cons]
        omega
      · contradiction
    · contradiction
  · contradiction

/-- The characters of a string after its opening quote; `opening` counts the
characters from that quote on. -/
def stringBody (opening : Nat) : List Char → Parsed (List Char)
  | [] => .error ⟨.unterminatedString, opening⟩
  | '"' :: rest => .ok ([], rest)
  | '\\' :: 'u' :: a :: b :: c :: d :: next :: rest =>
    match hexCode? a b c d with
    | none => .error ⟨.invalidCodeEscape, rest.length + 6⟩
    | some code =>
      match isHighSurrogate code, hlow : lowHalf? (next :: rest) with
      | true, some (low, after) =>
        have := lowHalf?_shorter hlow
        (stringBody opening after).map fun (body, rest) =>
          (joinSurrogates code low :: body, rest)
      | _, _ =>
        match character? code with
        | none => .error ⟨.loneSurrogate, rest.length + 7⟩
        | some character =>
          (stringBody opening (next :: rest)).map fun (body, rest) =>
            (character :: body, rest)
  | '\\' :: 'u' :: rest => .error ⟨.invalidCodeEscape, rest.length + 1⟩
  | '\\' :: mark :: rest =>
    match escaped? mark with
    | some character =>
      (stringBody opening rest).map fun (body, rest) =>
        (character :: body, rest)
    | none => .error ⟨.invalidEscape, rest.length + 2⟩
  | ['\\'] => .error ⟨.unterminatedString, opening⟩
  | character :: rest =>
    if character.toNat < 0x20 then failAt .controlCharacter (character :: rest)
    else (stringBody opening rest).map fun (body, rest) =>
      (character :: body, rest)
termination_by characters => characters.length
decreasing_by all_goals (simp only [List.length_cons] at *; omega)

/-- A string whose opening quote has been read. -/
def string (rest : List Char) : Parsed String :=
  (stringBody (rest.length + 1) rest).map fun (body, rest) =>
    (String.ofList body, rest)

def digitsOf (characters : List Char) : List Nat :=
  characters.map fun character => character.toNat - 0x30

/-- The digits of a fraction, if a point with a digit after it follows. -/
def fraction : List Char → List Nat × List Char
  | '.' :: digit :: rest =>
    if digit.isDigit then
      (digitsOf ((digit :: rest).takeWhile Char.isDigit),
        (digit :: rest).dropWhile Char.isDigit)
    else ([], '.' :: digit :: rest)
  | rest => ([], rest)

/-- The exponent, if a mark with digits after it follows. -/
def exponent? (characters : List Char) : Option (Int × List Char) :=
  match characters with
  | mark :: rest =>
    if mark == 'e' || mark == 'E' then
      let (negative, body) := Numeral.sign rest
      let digits := body.takeWhile Char.isDigit
      if digits.isEmpty then none
      else some (Numeral.withSign negative (Numeral.ofDigits (digitsOf digits)),
        body.dropWhile Char.isDigit)
    else none
  | [] => none

/-- The digits before the point: a single zero, or digits that do not start
with one. -/
def wholePart? : List Char → Option (List Nat × List Char)
  | '0' :: rest => some ([0], rest)
  | digit :: rest =>
    if digit.isDigit then
      some (digitsOf ((digit :: rest).takeWhile Char.isDigit),
        (digit :: rest).dropWhile Char.isDigit)
    else none
  | [] => none

def minus : List Char → Bool × List Char
  | '-' :: rest => (true, rest)
  | rest => (false, rest)

/-- A number: an integer unless it has a fraction or an exponent. -/
def number? (characters : List Char) : Option (Value × List Char) :=
  let (negative, body) := minus characters
  (wholePart? body).map fun (whole, afterWhole) =>
    let (digits, afterFraction) := fraction afterWhole
    match exponent? afterFraction with
    | some (exponent, rest) =>
      (.float (Decimal.toBinary64 negative
        ⟨Numeral.ofDigits (whole ++ digits), exponent - digits.length⟩), rest)
    | none =>
      if digits.isEmpty then
        (.int (Numeral.withSign negative (Numeral.ofDigits whole)),
          afterFraction)
      else
        (.float (Decimal.toBinary64 negative
          ⟨Numeral.ofDigits (whole ++ digits), -(digits.length : Int)⟩),
            afterFraction)

/-- Number of digits of a value that is an integer without a numeral. -/
def oversized? : Value → Option Nat
  | .int number =>
    if Numeral.isSpellable number then none
    else some (decimalLength number.natAbs)
  | _ => none

mutual

/-- A value at the start of the characters.  The fuel suffices when it is at
least twice the number of characters. -/
def value : Nat → List Char → Parsed Value
  | 0, characters => failAt .expectingValue characters
  | fuel + 1, characters =>
    match characters with
    | '"' :: rest => (string rest).map fun (text, rest) => (.str text, rest)
    | '\x7b' :: rest =>
      match skipBlank rest with
      | '\x7d' :: rest => .ok (.dict [], rest)
      | body => (fields fuel body).map fun (pairs, rest) =>
          (.dict (Table.ofList pairs).entries, rest)
    | '[' :: rest =>
      match skipBlank rest with
      | ']' :: rest => .ok (.list [], rest)
      | body => (items fuel body).map fun (values, rest) => (.list values, rest)
    | 'n' :: 'u' :: 'l' :: 'l' :: rest => .ok (.null, rest)
    | 't' :: 'r' :: 'u' :: 'e' :: rest => .ok (.bool true, rest)
    | 'f' :: 'a' :: 'l' :: 's' :: 'e' :: rest => .ok (.bool false, rest)
    | 'N' :: 'a' :: 'N' :: rest => .ok (.float .nan, rest)
    | 'I' :: 'n' :: 'f' :: 'i' :: 'n' :: 'i' :: 't' :: 'y' :: rest =>
      .ok (.float (.infinity false), rest)
    | '-' :: 'I' :: 'n' :: 'f' :: 'i' :: 'n' :: 'i' :: 't' :: 'y' :: rest =>
      .ok (.float (.infinity true), rest)
    | characters =>
      match number? characters with
      | none => failAt .expectingValue characters
      | some (number, rest) =>
        match oversized? number with
        | some digits => failAt (.oversizedInteger digits) characters
        | none => .ok (number, rest)

/-- The items of a list that is not empty, up to its closing bracket. -/
def items : Nat → List Char → Parsed (List Value)
  | 0, characters => failAt .expectingValue characters
  | fuel + 1, characters =>
    match value fuel characters with
    | .error failure => .error failure
    | .ok (first, rest) =>
      match skipBlank rest with
      | ']' :: rest => .ok ([first], rest)
      | ',' :: rest =>
        (items fuel (skipBlank rest)).map fun (more, rest) =>
          (first :: more, rest)
      | rest => failAt .expectingComma rest

/-- The fields of an object that is not empty, up to its closing brace. -/
def fields : Nat → List Char → Parsed (List (String × Value))
  | 0, characters => failAt .expectingName characters
  | fuel + 1, characters =>
    match characters with
    | '"' :: rest =>
      match string rest with
      | .error failure => .error failure
      | .ok (name, rest) =>
        match skipBlank rest with
        | ':' :: rest =>
          match value fuel (skipBlank rest) with
          | .error failure => .error failure
          | .ok (first, rest) =>
            match skipBlank rest with
            | '\x7d' :: rest => .ok ([(name, first)], rest)
            | ',' :: rest =>
              (fields fuel (skipBlank rest)).map fun (more, rest) =>
                ((name, first) :: more, rest)
            | rest => failAt .expectingComma rest
        | rest => failAt .expectingColon rest
    | rest => failAt .expectingName rest

end

/-- A value that fills the characters, with blanks around it. -/
def readCharacters (characters : List Char) : Except Failure Value :=
  match value (2 * characters.length + 1) (skipBlank characters) with
  | .error failure => .error failure
  | .ok (result, rest) =>
    match skipBlank rest with
    | [] => .ok result
    | rest => failAt .extraData rest

/-- The place of a failure in its text, as messages name it. -/
def locate (characters : List Char) (failure : Failure) : String :=
  let offset := characters.length - failure.remaining
  let before := characters.take offset
  let line := before.count '\n' + 1
  let column := (before.reverse.takeWhile (· != '\n')).length + 1
  failure.fault.message ++ ": line " ++ toString line ++ " column " ++
    toString column ++
    " (char " ++ toString offset ++ ")"

/-- Reads a text.  A byte order mark at its start is a failure of its own. -/
def readText (text : String) : Except Failure Value :=
  match text.toList with
  | '\ufeff' :: rest => .error ⟨.byteOrderMark, rest.length + 1⟩
  | characters => readCharacters characters

end StoryGraph.Json
