import StoryGraph.Number.Decimal

/-!
# Written forms of numbers

A `Layout` collects the choices of an output format: which decimal exponents
are written in positional notation, how many digits an exponent has at least,
and the words for the values that have no digits.
-/

namespace StoryGraph

structure Layout where
  /-- Least exponent of the first digit in positional notation. -/
  leastPositional : Int
  /-- Greatest exponent of the first digit in positional notation. -/
  greatestPositional : Int
  /-- Least number of digits of a written exponent. -/
  exponentWidth : Nat
  nan : String
  infinity : String
  negativeInfinity : String

namespace Layout

/-- Numbers in messages and in answers. -/
def plain : Layout := ⟨-4, 15, 2, "nan", "inf", "-inf"⟩

/-- Numbers in graph documents and in canonical texts. -/
def document : Layout := ⟨-4, 15, 2, "NaN", "Infinity", "-Infinity"⟩

/-- Numbers in stored compiled graphs, which have no words for values without
digits. -/
def stored : Layout := ⟨-5, 15, 1, "null", "null", "null"⟩

def digitText (number : Nat) : String :=
  String.ofList (Nat.toDigits 10 number)

def integerText (number : Int) : String :=
  if number < 0 then "-" ++ digitText number.natAbs else digitText number.natAbs

/-- The exponent with its sign and at least `width` digits. -/
def exponentText (width : Nat) (exponent : Int) : String :=
  let digits := Nat.toDigits 10 exponent.natAbs
  let padding := List.replicate (width - digits.length) '0'
  String.ofList ((if exponent < 0 then '-' else '+') :: (padding ++ digits))

/-- Digits with the point after the first one, if there is a second. -/
def scientificText (width : Nat) (digits : List Char)
    (exponent : Int) : String :=
  let fraction := if digits.length ≤ 1 then [] else '.' :: digits.drop 1
  String.ofList (digits.take 1 ++ fraction) ++ "e" ++
    exponentText width exponent

/-- Digits with the point at its place, and a zero where a side has none. -/
def positionalText (digits : List Char) (exponent : Int) : String :=
  if exponent < 0 then
    String.ofList (['0', '.'] ++ List.replicate (-exponent - 1).toNat '0' ++
      digits)
  else
    let whole := exponent.toNat + 1
    let fraction := digits.drop whole
    String.ofList (digits.take whole ++
      List.replicate (whole - digits.length) '0' ++
      '.' :: (if fraction.isEmpty then ['0'] else fraction))

/-- The text of a decimal that has no sign. -/
def decimalText (layout : Layout) (decimal : Decimal) : String :=
  let digits := Nat.toDigits 10 decimal.digits
  let leading := decimal.exponent + digits.length - 1
  if layout.leastPositional ≤ leading &&
    leading ≤ layout.greatestPositional then
    positionalText digits leading
  else scientificText layout.exponentWidth digits leading

def text (layout : Layout) : Binary64 → String
  | .nan => layout.nan
  | .infinity negative =>
    if negative then layout.negativeInfinity else layout.infinity
  | .finite negative mantissa exponent canonical =>
    let magnitude :=
      layout.decimalText (Decimal.shortest mantissa exponent canonical)
    if negative then "-" ++ magnitude else magnitude

end Layout

end StoryGraph
