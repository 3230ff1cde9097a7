/-!
# Binary floating point numbers of 64 bits

A finite number is a sign, a mantissa below `2^53` and the exponent of its last
place.  The exponent is the least one that the format admits for the
mantissa, so two finite numbers are equal exactly when they have the same sign
and the same value.  Rounding goes to the nearest number of the format, and a
value halfway between two of them to the one with the even mantissa.  All of
it is exact arithmetic on natural numbers and rationals.
-/

namespace StoryGraph

/-- Mantissa and exponent of a finite number: the exponent is in range, and a
mantissa shorter than 53 bits only occurs at the least exponent. -/
def CanonicalScale (mantissa : Nat) (exponent : Int) : Prop :=
  -1074 ≤ exponent ∧ exponent ≤ 971 ∧ mantissa < 0x20000000000000 ∧
    (mantissa < 0x10000000000000 → exponent = -1074)

instance (mantissa : Nat) (exponent : Int) :
    Decidable (CanonicalScale mantissa exponent) :=
  inferInstanceAs (Decidable (_ ∧ _))

inductive Binary64 where
  | nan
  | infinity (negative : Bool)
  | finite (negative : Bool) (mantissa : Nat) (exponent : Int)
      (canonical : CanonicalScale mantissa exponent)
  deriving DecidableEq

namespace Binary64

/-- The zero of a sign. -/
def signedZero (negative : Bool) : Binary64 :=
  .finite negative 0 (-1074) (by decide)

/-- Floor of the binary logarithm of a positive quotient. -/
def quotientLog2 (numerator denominator : Nat) : Int :=
  let estimate : Int := (numerator.log2 : Int) - denominator.log2
  let reaches :=
    if 0 ≤ estimate then denominator * Nat.pow 2 estimate.toNat ≤ numerator
    else denominator ≤ numerator * Nat.pow 2 (-estimate).toNat
  if reaches then estimate else estimate - 1

/-- Integer nearest to a quotient, the even one of two. -/
def roundQuotient (numerator denominator : Nat) : Nat :=
  let quotient := numerator / denominator
  let twice := 2 * (numerator % denominator)
  if twice < denominator then quotient
  else if denominator < twice then quotient + 1
  else quotient + quotient % 2

/-- The number nearest to a quotient with positive denominator, infinite when
the quotient is beyond the largest finite number by half a place or more. -/
def ofQuotient (negative : Bool) (numerator denominator : Nat) : Binary64 :=
  if numerator = 0 then signedZero negative
  else
    let exponent := max (-1074) (quotientLog2 numerator denominator - 52)
    let mantissa :=
      if 0 ≤ exponent then
        roundQuotient numerator (denominator * Nat.pow 2 exponent.toNat)
      else roundQuotient (numerator * Nat.pow 2 (-exponent).toNat) denominator
    if hfits : CanonicalScale mantissa exponent then
      .finite negative mantissa exponent hfits
    else if hcarries : CanonicalScale (mantissa / 2) (exponent + 1) then
      .finite negative (mantissa / 2) (exponent + 1) hcarries
    else .infinity negative

def ofRat (value : Rat) : Binary64 :=
  ofQuotient (decide (value < 0)) value.num.natAbs value.den

/-- The nearest number to an integer; `none` when that is infinite. -/
def ofInt? (value : Int) : Option Binary64 :=
  match ofQuotient (decide (value < 0)) value.natAbs 1 with
  | .infinity _ => none
  | number => some number

/-- Numerator and denominator of the magnitude `mantissa * 2^exponent`. -/
def magnitude (mantissa : Nat) (exponent : Int) : Nat × Nat :=
  if 0 ≤ exponent then (mantissa * Nat.pow 2 exponent.toNat, 1)
  else (mantissa, Nat.pow 2 (-exponent).toNat)

/-- The exact value of a finite number. -/
def toRat? : Binary64 → Option Rat
  | finite negative mantissa exponent _ =>
    let parts := magnitude mantissa exponent
    let value := mkRat parts.1 parts.2
    some (if negative then -value else value)
  | _ => none

/-- The value as an integer, when it is one. -/
def toInt? (number : Binary64) : Option Int :=
  number.toRat?.bind fun value => if value.den = 1 then some value.num else none

def isFinite : Binary64 → Bool
  | finite .. => true
  | _ => false

def isZero : Binary64 → Bool
  | finite _ mantissa _ _ => mantissa = 0
  | _ => false

/-- Sum rounded once.  Opposite infinities have no sum, and a sum of zero is
negative only when both terms are negative zeros. -/
def add : Binary64 → Binary64 → Binary64
  | nan, _ => nan
  | _, nan => nan
  | infinity left, infinity right => if left = right then infinity left else nan
  | infinity left, finite .. => infinity left
  | finite .., infinity right => infinity right
  | left@(finite leftSign ..), right@(finite rightSign ..) =>
    match left.toRat?, right.toRat? with
    | some leftValue, some rightValue =>
      if leftValue + rightValue = 0 then
        signedZero (leftSign && rightSign && left.isZero && right.isZero)
      else ofRat (leftValue + rightValue)
    | _, _ => nan

end Binary64

/-- The numbers that can be ordered: rationals between two infinities. -/
inductive ExtendedRat where
  | bottom
  | value (value : Rat)
  | top
  deriving DecidableEq

namespace ExtendedRat

def less : ExtendedRat → ExtendedRat → Bool
  | bottom, bottom => false
  | bottom, _ => true
  | value left, value right => decide (left < right)
  | value _, top => true
  | _, _ => false

end ExtendedRat

/-- Place of a number among the extended rationals; `nan` has none. -/
def Binary64.toExtended? : Binary64 → Option ExtendedRat
  | .nan => none
  | .infinity negative => some (if negative then .bottom else .top)
  | number => number.toRat?.map .value

end StoryGraph
