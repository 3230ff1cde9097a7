import StoryGraph.Number.Binary64

/-!
# Decimal numbers

`Decimal.shortest` finds the decimal with the fewest digits that reads back as
a given binary number, and of several such decimals the nearest one.  The
search tries the two neighbours of the number on each decimal grid, from one
significant digit upwards, and tests a neighbour by reading it back.
-/

namespace StoryGraph

/-- The number `digits * 10^exponent`. -/
structure Decimal where
  digits : Nat
  exponent : Int
  deriving DecidableEq

/-- Length of a number in decimal notation; zero has one digit. -/
def decimalLength (number : Nat) : Nat :=
  (Nat.toDigits 10 number).length

namespace Decimal

/-- Bound on the decimal exponent of numbers that are neither too large nor too
small for the binary format. -/
def exponentBound : Int := 400

/-- The nearest binary number of a sign.  Decimals far outside the range of the
format are answered without computing the power of ten. -/
def toBinary64 (negative : Bool) (decimal : Decimal) : Binary64 :=
  let place := decimal.exponent + decimalLength decimal.digits
  if decimal.digits = 0 || place < -exponentBound then .signedZero negative
  else if exponentBound < place then .infinity negative
  else if 0 ≤ decimal.exponent then
    .ofQuotient negative (decimal.digits * Nat.pow 10 decimal.exponent.toNat) 1
  else .ofQuotient negative decimal.digits
    (Nat.pow 10 (-decimal.exponent).toNat)

/-- Floor of the decimal logarithm of a positive quotient. -/
def quotientLog10 (numerator denominator : Nat) : Int :=
  let estimate : Int :=
    (decimalLength numerator : Int) - decimalLength denominator
  let reaches :=
    if 0 ≤ estimate then denominator * Nat.pow 10 estimate.toNat ≤ numerator
    else denominator ≤ numerator * Nat.pow 10 (-estimate).toNat
  if reaches then estimate else estimate - 1

/-- A quotient in units of a power of ten, again as a quotient. -/
def inUnits (numerator denominator : Nat) (exponent : Int) : Nat × Nat :=
  if 0 ≤ exponent then (numerator, denominator * Nat.pow 10 exponent.toNat)
  else (numerator * Nat.pow 10 (-exponent).toNat, denominator)

/-- The neighbours of a quotient on a decimal grid, the nearer one first and of
two equally near ones the even one. -/
def neighbours (numerator denominator : Nat) (exponent : Int) : List Decimal :=
  let scaled := inUnits numerator denominator exponent
  let below := scaled.1 / scaled.2
  if roundedUp scaled.1 scaled.2 then [⟨below + 1, exponent⟩, ⟨below, exponent⟩]
  else [⟨below, exponent⟩, ⟨below + 1, exponent⟩]
where
  roundedUp (numerator denominator : Nat) : Bool :=
    Binary64.roundQuotient numerator denominator != numerator / denominator

/-- The decimal without trailing zeros among its digits. -/
def normalize (decimal : Decimal) : Decimal :=
  if decimal.digits = 0 then ⟨0, 0⟩
  else if decimal.digits % 10 = 0 then
    normalize ⟨decimal.digits / 10, decimal.exponent + 1⟩
  else decimal
termination_by decimal.digits
decreasing_by exact Nat.div_lt_self (by omega) (by decide)

/-- The magnitude `mantissa * 2^exponent` written out in full. -/
def exact (mantissa : Nat) (exponent : Int) : Decimal :=
  if 0 ≤ exponent then ⟨mantissa * Nat.pow 2 exponent.toNat, 0⟩
  else ⟨mantissa * Nat.pow 5 (-exponent).toNat, exponent⟩

/-- Seventeen digits tell any two binary numbers apart. -/
def digitLimit : Nat := 17

/-- The shortest decimal that reads back as the binary number with this
mantissa and exponent. -/
def shortest (mantissa : Nat) (exponent : Int)
    (canonical : CanonicalScale mantissa exponent) : Decimal :=
  let number := Binary64.finite false mantissa exponent canonical
  let parts := Binary64.magnitude mantissa exponent
  let place := quotientLog10 parts.1 parts.2
  let found := (List.range digitLimit).findSome? fun (precision : Nat) =>
    (neighbours parts.1 parts.2 (place - precision)).find? fun decimal =>
      toBinary64 false decimal = number
  normalize (found.getD (exact mantissa exponent))

end Decimal

end StoryGraph
