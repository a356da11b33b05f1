/-!
# Binary64 numbers

The numbers of the IEEE 754 binary64 format, with exact arithmetic. A finite number is its sign and
the rank of its magnitude: the nonnegative finite numbers in ascending order are numbered from zero,
so comparing two of them compares ranks, and rounding a quotient is rounding to an integer rank.
-/

set_option autoImplicit false

namespace LiveMarkup

/-- `2 ^ 52`: the number of fractions at one exponent. -/
def Finite64.fractionCount : Nat := 4503599627370496

/-- The number of finite magnitudes: 2047 exponents with all their fractions. -/
def Finite64.magnitudeCount : Nat := 2047 * fractionCount

/-- A finite binary64 number. Rank `b * 2 ^ 52 + f` has biased exponent `b` and fraction `f`. -/
structure Finite64 where
  negative : Bool
  rank : Fin Finite64.magnitudeCount
deriving DecidableEq

/-- A binary64 number; all numbers that are not a number are one. -/
inductive Binary64 where
  | finite (x : Finite64)
  | infinite (negative : Bool)
  | nan
deriving DecidableEq

namespace Finite64

/-- The zero of a sign. -/
def signedZero (negative : Bool) : Finite64 := ⟨negative, ⟨0, by decide⟩⟩

/-- Positive zero. -/
def zero : Finite64 := signedZero false

instance : Inhabited Finite64 := ⟨zero⟩

/-- The biased exponent of the format. -/
def biased (x : Finite64) : Nat := x.rank.val / fractionCount

/-- The magnitude is `significand * 2 ^ exponent`. -/
def significand (x : Finite64) : Nat :=
  if x.biased = 0 then x.rank.val else fractionCount + x.rank.val % fractionCount

/-- The magnitude is `significand * 2 ^ exponent`. -/
def exponent (x : Finite64) : Int :=
  if x.biased = 0 then -1074 else (x.biased : Int) - 1075

/-- Numerator of the magnitude as a quotient of integers. -/
def numerator (x : Finite64) : Nat := x.significand * Nat.pow 2 x.exponent.toNat

/-- Denominator of the magnitude as a quotient of integers. -/
def denominator (x : Finite64) : Nat := Nat.pow 2 (-x.exponent).toNat

/-- Position in the order of the numbers; both zeros have position zero. -/
def position (x : Finite64) : Int :=
  if x.negative then -(x.rank.val : Int) else x.rank.val

/-- Numeric equality: the zeros are equal. -/
def equals (x y : Finite64) : Bool := x.position == y.position

/-- Numeric order. -/
def less (x y : Finite64) : Bool := x.position < y.position

/-- Whether the number is a zero of either sign. -/
def isZero (x : Finite64) : Bool := x.rank.val == 0

/-- Whether the number has no fractional part. -/
def isIntegral (x : Finite64) : Bool := x.numerator % x.denominator == 0

/-- The quotient of two integers rounded to the nearest integer, a half to the even neighbour. -/
def divideToNearest (num den : Nat) : Nat :=
  let quotient := num / den
  let twice := 2 * (num % den)
  if twice < den then quotient
  else if den < twice then quotient + 1
  else quotient + quotient % 2

/-- Rank of the number nearest to `num / den`, a half to the even rank. Past the largest finite rank
the quotient is too large for the format. -/
def rankOfRatio (num den : Nat) : Nat :=
  if num = 0 then 0
  else
    let scaled (e : Int) : Nat × Nat := (num * Nat.pow 2 (-e).toNat, den * Nat.pow 2 e.toNat)
    let low : Int := max ((num.log2 : Int) - den.log2 - 53) (-1074)
    let e : Int := if (scaled low).1 / (scaled low).2 < 2 * fractionCount then low else low + 1
    (e + 1074).toNat * fractionCount + divideToNearest (scaled e).1 (scaled e).2

/-- The finite number nearest to a quotient; beyond the largest one that is the largest one. -/
def nearest (negative : Bool) (num den : Nat) : Finite64 :=
  ⟨negative, ⟨min (rankOfRatio num den) (magnitudeCount - 1),
    Nat.lt_of_le_of_lt (Nat.min_le_right _ _) (by decide)⟩⟩

/-- The number nearest to an integer. -/
def ofInt (n : Int) : Finite64 := nearest (n < 0) n.natAbs 1

/-- The greatest integral number that is not above `x`, with the sign of `x` on a zero. -/
def floor (x : Finite64) : Finite64 :=
  if x.isIntegral then x
  else
    let whole := x.numerator / x.denominator
    nearest x.negative (if x.negative then whole + 1 else whole) 1

/-- The least integral number that is not below `x`, with the sign of `x` on a zero. -/
def ceil (x : Finite64) : Finite64 :=
  if x.isIntegral then x
  else
    let whole := x.numerator / x.denominator
    nearest x.negative (if x.negative then whole else whole + 1) 1

/-- The integer value of an integral number. -/
def toInt? (x : Finite64) : Option Int :=
  if x.isIntegral then
    let whole : Int := (x.numerator / x.denominator : Nat)
    some (if x.negative then -whole else whole)
  else none

end Finite64

namespace Binary64

/-- The number nearest to a quotient of integers; infinite when the format has no room for it. -/
def ofRatio (negative : Bool) (num den : Nat) : Binary64 :=
  if h : Finite64.rankOfRatio num den < Finite64.magnitudeCount then
    .finite ⟨negative, ⟨Finite64.rankOfRatio num den, h⟩⟩
  else .infinite negative

/-- The product of two finite numbers, rounded to the nearest number. -/
def product (x y : Finite64) : Binary64 :=
  ofRatio (x.negative != y.negative) (x.numerator * y.numerator) (x.denominator * y.denominator)

/-- The quotient of a finite number by a finite number that is not zero, rounded to the nearest
number. -/
def quotient (x y : Finite64) : Binary64 :=
  ofRatio (x.negative != y.negative) (x.numerator * y.denominator) (x.denominator * y.numerator)

/-- The number nearest to `digits * 10 ^ exponent`. -/
def ofDecimal (negative : Bool) (digits : Nat) (exponent : Int) : Binary64 :=
  let magnitude : Int := (digits.log2 : Int) / 4 + exponent
  if digits = 0 then .finite (.signedZero negative)
  else if magnitude > 400 then .infinite negative
  else if (digits.log2 : Int) + exponent < -400 then .finite (.signedZero negative)
  else ofRatio negative (digits * Nat.pow 10 exponent.toNat)
    (Nat.pow 10 (-exponent).toNat)

/-- The order of two numbers, unless one of them is not a number. -/
def compare? : Binary64 → Binary64 → Option Ordering
  | .nan, _ => none
  | _, .nan => none
  | .infinite s, .infinite t => some (if s == t then .eq else if s then .lt else .gt)
  | .infinite s, .finite _ => some (if s then .lt else .gt)
  | .finite _, .infinite t => some (if t then .gt else .lt)
  | .finite x, .finite y => some (compare x.position y.position)

/-- Whether `x` is at least `y`; false when one of them is not a number. -/
def atLeast (x y : Binary64) : Bool :=
  match compare? x y with
  | some .gt => true
  | some .eq => true
  | _ => false

end Binary64

end LiveMarkup
