import LiveMarkup.Number.Binary64

/-!
# Shortest decimals

The decimal text of a finite binary64 number has the fewest digits that read back as that number and
of those the digits nearest to it. A layout says how the digits are written: where an exponent
starts, what marks a whole number, and which way an exact tie between two nearest decimals goes.
-/

set_option autoImplicit false

namespace LiveMarkup

/-- The decimal `digits * 10 ^ exponent`. -/
structure Decimal where
  digits : Nat
  exponent : Int
deriving DecidableEq

/-- Which of two equally near decimals is taken. -/
inductive TieRule where
  | toEven
  | up
deriving DecidableEq

/-- How the shortest digits of a number are written. -/
structure FloatLayout where
  tie : TieRule
  /-- Written after a number that has no fractional digits. -/
  wholeMark : String
  /-- Least power of ten of the first digit that is written without an exponent. -/
  leastPositional : Option Int
  /-- Power of ten of the first digit from which on an exponent is written. -/
  firstScientific : Option Int
deriving DecidableEq

namespace Decimal

/-- Drops trailing zero digits; at most `fuel` of them. -/
def strip : Nat → Decimal → Decimal
  | 0, d => d
  | fuel + 1, d =>
    if d.digits ≠ 0 ∧ d.digits % 10 = 0 then strip fuel ⟨d.digits / 10, d.exponent + 1⟩ else d

end Decimal

namespace Finite64

/-- The point of the grid of multiples of `10 ^ exponent` that lies nearest to the magnitude and
within the interval of reals that round to it, if that interval holds a grid point. -/
def gridPoint? (tie : TieRule) (x : Finite64) (exponent : Int) : Option Nat :=
  let m := x.significand
  let e := x.exponent - 2
  let evenEnds := m % 2 = 0
  let lowest := if m = fractionCount ∧ -1074 < x.exponent then 4 * m - 1 else 4 * m - 2
  let up := Nat.pow 2 e.toNat * Nat.pow 10 (-exponent).toNat
  let down := Nat.pow 2 (-e).toNat * Nat.pow 10 exponent.toNat
  let value := 4 * m * up
  let inside (n : Nat) : Bool :=
    let point := n * down
    if evenEnds then lowest * up ≤ point ∧ point ≤ (4 * m + 2) * up
    else lowest * up < point ∧ point < (4 * m + 2) * up
  let below := value / down
  let above := below + 1
  match inside below, inside above with
  | false, false => none
  | true, false => some below
  | false, true => some above
  | true, true =>
    let toBelow := value - below * down
    let toAbove := above * down - value
    if toBelow < toAbove then some below
    else if toAbove < toBelow then some above
    else match tie with
      | .up => some above
      | .toEven => some (if below % 2 = 0 then below else above)

/-- Looks for a grid point from the coarse grid `10 ^ exponent` on to ever finer ones. -/
def searchGrids (tie : TieRule) (x : Finite64) : Nat → Int → Decimal
  | 0, exponent => ⟨x.numerator, exponent⟩
  | fuel + 1, exponent =>
    match gridPoint? tie x exponent with
    | some n => (⟨n, exponent⟩ : Decimal).strip 20
    | none => searchGrids tie x fuel (exponent - 1)

/-- The shortest decimal that reads back as the magnitude, the nearest one among the shortest. -/
def shortest (tie : TieRule) (x : Finite64) : Decimal :=
  if x.rank.val = 0 then ⟨0, 0⟩
  else
    let bits : Int := (x.significand.log2 : Int) + x.exponent + 1
    searchGrids tie x 24 (bits * 30103 / 100000 + 1)

end Finite64

namespace FloatLayout

/-- The digits of a natural number. -/
def digitsOf (n : Nat) : List Char := Nat.toDigits 10 n

/-- The digits of a number without a sign and without an exponent. -/
def positional (layout : FloatLayout) (d : Decimal) : List Char :=
  let ds := digitsOf d.digits
  if 0 ≤ d.exponent then ds ++ List.replicate d.exponent.toNat '0' ++ layout.wholeMark.toList
  else
    let places := (-d.exponent).toNat
    let padded := List.replicate (places + 1 - ds.length) '0' ++ ds
    padded.take (padded.length - places) ++ '.' :: padded.drop (padded.length - places)

/-- One digit, the rest after a point, and a signed power of ten. -/
def scientific (d : Decimal) (power : Int) : List Char :=
  let sign := if power < 0 then '-' else '+'
  let tail := 'e' :: sign :: digitsOf power.natAbs
  match digitsOf d.digits with
  | [] => tail
  | [c] => c :: tail
  | c :: rest => c :: '.' :: rest ++ tail

/-- The text of a finite number. -/
def write (layout : FloatLayout) (x : Finite64) : String :=
  let d := x.shortest layout.tie
  let power : Int := (digitsOf d.digits).length - 1 + d.exponent
  let small := layout.leastPositional.any fun least => power < least
  let large := layout.firstScientific.any fun first => first ≤ power
  let body :=
    if x.isZero then layout.positional d
    else if small || large then scientific d power
    else layout.positional d
  String.ofList (if x.negative then '-' :: body else body)

/-- Always positional and without a mark on whole numbers; a tie goes up. -/
def plain : FloatLayout := ⟨.up, "", none, none⟩

/-- Positional for magnitudes from `10 ^ -5` to below `10 ^ 16`, with `.0` on whole numbers; a tie
goes to the even digit. -/
def exact : FloatLayout := ⟨.toEven, ".0", some (-5), some 16⟩

end FloatLayout

/-- The plain text of a number. -/
def Binary64.plainText : Binary64 → String
  | .finite x => FloatLayout.plain.write x
  | .infinite negative => if negative then "-inf" else "inf"
  | .nan => "NaN"

end LiveMarkup
