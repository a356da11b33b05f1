import LiveMarkup.Number.Shortest

/-!
# Numbers from decimal text

Two readings of decimal text. `Binary64.ofText?` reads a free-standing text, with its signs, missing
digits, `inf` and `nan`, and rounds once. `NumberText.value?` reads a number token of a JSON text: an
integer of at most 64 bits stays an integer, and any other number is the digits that fit into 64
bits, rounded, then scaled by a rounded power of ten.
-/

set_option autoImplicit false

namespace LiveMarkup

/-- The number that a list of decimal digits writes, continuing from the digits of `start`. -/
def digitsValue (start : Nat) (ds : List Char) : Nat :=
  ds.foldl (fun n c => 10 * n + (c.toNat - '0'.toNat)) start

namespace Binary64

/-- The exponent part of a decimal text; the empty text stands for exponent zero. -/
def exponentOfText? : List Char → Option Int
  | [] => some 0
  | mark :: rest =>
    if mark = 'e' ∨ mark = 'E' then
      let (negative, ds) := match rest with
        | '-' :: ds => (true, ds)
        | '+' :: ds => (false, ds)
        | ds => (false, ds)
      if ds.isEmpty || !ds.all Char.isDigit then none
      else
        let n : Int := digitsValue 0 ds
        some (if negative then -n else n)
    else none

/-- The number that an unsigned text writes. -/
def ofUnsigned? (negative : Bool) (cs : List Char) : Option Binary64 :=
  let word := String.ofList (cs.map Char.toLower)
  if word = "inf" ∨ word = "infinity" then some (.infinite negative)
  else if word = "nan" then some .nan
  else
    let whole := cs.takeWhile Char.isDigit
    let rest := cs.dropWhile Char.isDigit
    let fraction := match rest with
      | '.' :: more => more.takeWhile Char.isDigit
      | _ => []
    let tail := match rest with
      | '.' :: more => more.dropWhile Char.isDigit
      | _ => rest
    if whole.isEmpty && fraction.isEmpty then none
    else (exponentOfText? tail).map fun e =>
      ofDecimal negative (digitsValue 0 (whole ++ fraction)) (e - fraction.length)

/-- The number that a text writes, rounded to the nearest number. -/
def ofText? (s : String) : Option Binary64 :=
  match s.toList with
  | '-' :: cs => ofUnsigned? true cs
  | '+' :: cs => ofUnsigned? false cs
  | cs => ofUnsigned? false cs

end Binary64

/-- The signed and the unsigned 64-bit range together. -/
abbrev FitsWord (n : Int) : Prop := -9223372036854775808 ≤ n ∧ n < 18446744073709551616

/-- A JSON number: an integer of the signed or unsigned 64-bit range, or a finite binary64 number. -/
inductive JsonNumber where
  | integer (n : Int) (fits : FitsWord n)
  | float (x : Finite64)
deriving DecidableEq

namespace JsonNumber

/-- An integer within 64 bits as it is, and any other one as the nearest binary64 number. -/
def ofInt (n : Int) : JsonNumber :=
  if fits : FitsWord n then .integer n fits else .float (Finite64.ofInt n)

/-- The nearest binary64 number. -/
def toFinite : JsonNumber → Finite64
  | .integer n _ => Finite64.ofInt n
  | .float x => x

/-- Numeric equality within one representation; an integer never equals a float. -/
def equals : JsonNumber → JsonNumber → Bool
  | .integer m _, .integer n _ => m == n
  | .float x, .float y => x.equals y
  | _, _ => false

/-- Integers in decimal, floats by the exact layout. -/
def text : JsonNumber → String
  | .integer n _ => toString n
  | .float x => FloatLayout.exact.write x

end JsonNumber

/-- A number token of a JSON text. -/
structure NumberText where
  negative : Bool
  whole : List Char
  fraction : Option (List Char)
  /-- Sign and digits of the power of ten. -/
  exponent : Option (Bool × List Char)
deriving DecidableEq

namespace NumberText

/-- Accumulates digits while the number fits into 64 bits; returns it and the digits left over. -/
def accumulate (n : Nat) : List Char → Nat × List Char
  | [] => (n, [])
  | c :: rest =>
    let next := 10 * n + (c.toNat - '0'.toNat)
    if next < UInt64.size then accumulate next rest else (n, c :: rest)

/-- `x * 10 ^ exponent`, a step at a time; nothing when the result is too large. -/
def scale : Nat → Finite64 → Int → Option Finite64
  | 0, x, _ => some x
  | fuel + 1, x, exponent =>
    if exponent.natAbs < 309 then
      let power := Finite64.nearest false (Nat.pow 10 exponent.natAbs) 1
      match (if 0 ≤ exponent then Binary64.product x power else Binary64.quotient x power) with
      | .finite y => some y
      | _ => none
    else if x.isZero then some x
    else if 0 ≤ exponent then none
    else
      match Binary64.quotient x (Finite64.nearest false (Nat.pow 10 308) 1) with
      | .finite y => scale fuel y (exponent + 308)
      | _ => none

/-- The float that a token writes; three scaling steps bring any magnitude into range. -/
def float? (t : NumberText) : Option Finite64 :=
  let (head, dropped) := accumulate 0 t.whole
  let fraction := t.fraction.getD []
  let (significand, unread) := accumulate head fraction
  let shift : Int := dropped.length - (fraction.length - unread.length : Nat)
  let signed (x : Finite64) : Finite64 := { x with negative := t.negative }
  let scaled (e : Int) := (scale 3 (Finite64.ofInt significand) e).map signed
  match t.exponent with
  | none => scaled shift
  | some (negative, ds) =>
    let e := digitsValue 0 ds
    if 2147483648 ≤ e then
      if significand ≠ 0 ∧ !negative then none else some (signed .zero)
    else scaled (shift + if negative then -(e : Int) else e)

/-- The number that a token writes: an integer when it has neither fraction nor exponent, fits into
64 bits and is not a negative zero. -/
def value? (t : NumberText) : Option JsonNumber :=
  let n : Int := digitsValue 0 t.whole
  let signed := if t.negative then -n else n
  if t.fraction.isNone && t.exponent.isNone && !(t.negative && n == 0) then
    if fits : FitsWord signed then some (.integer signed fits)
    else t.float?.map .float
  else t.float?.map .float

end NumberText

end LiveMarkup
