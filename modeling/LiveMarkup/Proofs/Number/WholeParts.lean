import LiveMarkup.Number.Binary64
import Mathlib.Algebra.Ring.Nat

/-!
# Whole parts

`floor` and `ceil` round the whole part of a magnitude, or the next whole number, to a number of the
format. A number with a fraction is so small that nothing is rounded there, and the order of ranks is that
of magnitudes (`rank_le_of_magnitude_le`). So a floor is not above its number, and a ceiling not below it.
Numbers at one position are one number, or both zeros, and have their floors and ceilings at one position.
-/

set_option autoImplicit false

namespace LiveMarkup.Finite64

/-- The exponent counted from that of the least positive number: the magnitude is
`significand * 2 ^ place` times that number. -/
def place (x : Finite64) : Nat := x.biased - 1

theorem rank_eq (x : Finite64) : x.rank.val = x.place * fractionCount + x.significand := by
  have split := Nat.div_add_mod x.rank.val fractionCount
  rw [place, significand, biased]
  generalize x.rank.val / fractionCount = b at split ⊢
  split
  · rename_i zero
    subst zero
    rw [Nat.zero_sub, Nat.zero_mul, Nat.zero_add]
  · rename_i positive
    obtain ⟨p, rfl⟩ := Nat.exists_eq_succ_of_ne_zero positive
    rw [Nat.succ_eq_add_one, Nat.mul_add, Nat.mul_one, Nat.mul_comm] at split
    rw [Nat.succ_eq_add_one, Nat.add_sub_cancel]
    omega

theorem significand_lt (x : Finite64) : x.significand < 2 * fractionCount := by
  have fraction := Nat.mod_lt x.rank.val (show 0 < fractionCount by decide)
  have split := Nat.div_add_mod x.rank.val fractionCount
  rw [significand, biased]
  split
  · rename_i zero
    rw [zero] at split
    omega
  · omega

theorem fractionCount_le_significand {x : Finite64} (normal : 0 < x.place) :
    fractionCount ≤ x.significand := by
  have positive : x.biased ≠ 0 := by
    rw [place] at normal
    omega
  rw [significand, if_neg positive]
  exact Nat.le_add_right _ _

theorem exponent_eq (x : Finite64) : x.exponent = (x.place : Int) - 1074 := by
  rw [exponent, place]
  split <;> omega

theorem denominator_eq (x : Finite64) : x.denominator = 2 ^ (1074 - x.place) := by
  have places : (-x.exponent).toNat = 1074 - x.place := by
    rw [exponent_eq]
    omega
  rw [denominator, places, Nat.pow_eq]

theorem denominator_pos (x : Finite64) : 0 < x.denominator := by
  rw [denominator_eq]
  exact Nat.two_pow_pos _

/-- Of two magnitudes in normal form the one that is not greater has the rank that is not greater. -/
theorem rank_le_of_magnitude_le {p s q t : Nat} (bounded : s < 2 * fractionCount)
    (normal : 0 < p → fractionCount ≤ s) (normal' : 0 < q → fractionCount ≤ t)
    (bounded' : t < 2 * fractionCount) (le : s * 2 ^ p ≤ t * 2 ^ q) :
    p * fractionCount + s ≤ q * fractionCount + t := by
  rcases Nat.lt_trichotomy p q with below | rfl | above
  · -- A greater exponent alone is worth more than any significand.
    have large := normal' (Nat.zero_lt_of_lt below)
    have step := Nat.mul_le_mul_right fractionCount (Nat.succ_le_of_lt below)
    rw [Nat.succ_mul] at step
    omega
  · have smaller := Nat.le_of_mul_le_mul_right le (Nat.two_pow_pos p)
    omega
  · exfalso
    have large := normal (Nat.zero_lt_of_lt above)
    have power : 2 * 2 ^ q ≤ 2 ^ p := by
      rw [Nat.mul_comm, ← Nat.pow_succ]
      exact Nat.pow_le_pow_right (by decide) above
    have beyond : t * 2 ^ q < s * 2 ^ p :=
      calc t * 2 ^ q < 2 * fractionCount * 2 ^ q :=
            Nat.mul_lt_mul_of_pos_right bounded' (Nat.two_pow_pos q)
        _ = fractionCount * (2 * 2 ^ q) := by rw [Nat.mul_comm 2, Nat.mul_assoc]
        _ ≤ s * 2 ^ p := Nat.mul_le_mul large power
    exact Nat.lt_irrefl _ (Nat.lt_of_lt_of_le beyond le)

/-! ## Whole numbers -/

/-- The significand of a whole number that the format has room for. -/
def wholeSignificand (n : Nat) : Nat := n * 2 ^ (52 - n.log2)

theorem wholeSignificand_bounds {n : Nat} (positive : n ≠ 0) (small : n.log2 ≤ 52) :
    fractionCount ≤ wholeSignificand n ∧ wholeSignificand n < 2 * fractionCount := by
  have power : ∀ k, k + n.log2 = 52 → 2 ^ n.log2 * 2 ^ k = fractionCount ∧
      2 ^ (n.log2 + 1) * 2 ^ k = 2 * fractionCount := by
    intro k sum
    rw [← Nat.pow_add, ← Nat.pow_add, Nat.add_right_comm, Nat.add_comm n.log2 k, sum]
    exact ⟨rfl, rfl⟩
  obtain ⟨low, high⟩ := power (52 - n.log2) (by omega)
  constructor
  · rw [← low]
    exact Nat.mul_le_mul_right _ (Nat.log2_self_le positive)
  · rw [← high]
    exact Nat.mul_lt_mul_of_pos_right Nat.lt_log2_self (Nat.two_pow_pos _)

/-- A whole number of at most 53 bits is not rounded. -/
theorem rankOfRatio_whole {n : Nat} (positive : n ≠ 0) (small : n.log2 ≤ 52) :
    rankOfRatio n 1 = (n.log2 + 1022) * fractionCount + wholeSignificand n := by
  have low : max ((n.log2 : Int) - (1 : Nat).log2 - 53) (-1074) = (n.log2 : Int) - 53 := by
    have one : (1 : Nat).log2 = 0 := by decide
    rw [one]
    omega
  -- With one bit more than it has room for, the significand is out of range.
  have out : ¬ n * 2 ^ (53 - n.log2) < 2 * fractionCount := by
    have inside := (wholeSignificand_bounds positive small).1
    have double : n * 2 ^ (53 - n.log2) = 2 * wholeSignificand n := by
      rw [wholeSignificand, show 53 - n.log2 = 52 - n.log2 + 1 by omega, Nat.pow_succ]
      exact (Nat.mul_assoc _ _ _).symm.trans (Nat.mul_comm _ _)
    omega
  have same : ∀ k, divideToNearest k 1 = k := by
    intro k
    simp [divideToNearest, Nat.mod_one]
  have first : (-((n.log2 : Int) - 53)).toNat = 53 - n.log2 := by omega
  have none : ((n.log2 : Int) - 53).toNat = 0 := by omega
  have second : (-((n.log2 : Int) - 53 + 1)).toNat = 52 - n.log2 := by omega
  have none' : ((n.log2 : Int) - 53 + 1).toNat = 0 := by omega
  have sum : ((n.log2 : Int) - 53 + 1 + 1074).toNat = n.log2 + 1022 := by omega
  simp only [rankOfRatio, if_neg positive, low, first, none, Nat.pow_eq, Nat.pow_zero, Nat.mul_one,
    Nat.div_one, if_neg out, second, none', sum, same, wholeSignificand]

/-- The magnitude of a whole number, counted in least positive numbers. -/
theorem wholeSignificand_mul {n : Nat} (small : n.log2 ≤ 52) :
    wholeSignificand n * 2 ^ (n.log2 + 1022) = n * 2 ^ 1074 := by
  have places : 52 - n.log2 + (n.log2 + 1022) = 1074 := by omega
  calc wholeSignificand n * 2 ^ (n.log2 + 1022)
    _ = n * (2 ^ (52 - n.log2) * 2 ^ (n.log2 + 1022)) := Nat.mul_assoc n _ _
    _ = n * 2 ^ (52 - n.log2 + (n.log2 + 1022)) := congrArg (n * ·) (Nat.pow_add 2 _ _).symm
    _ = n * 2 ^ 1074 := congrArg (n * 2 ^ ·) places

/-! ## Numbers with a fraction -/

/-- A number with a fraction lies below `2 ^ 52`: its last place is one of a fraction. -/
theorem place_lt_of_not_integral {x : Finite64} (fraction : x.isIntegral = false) :
    x.place < 1074 := by
  apply Nat.lt_of_not_le
  intro large
  have one : x.denominator = 1 := by
    rw [denominator_eq, Nat.sub_eq_zero_of_le large, Nat.pow_zero]
  rw [isIntegral, one, Nat.mod_one] at fraction
  cases fraction

variable {x : Finite64}

theorem numerator_of_not_integral (fraction : x.isIntegral = false) :
    x.numerator = x.significand := by
  have below := place_lt_of_not_integral fraction
  have none : x.exponent.toNat = 0 := by
    rw [exponent_eq]
    omega
  rw [numerator, none, Nat.pow_eq, Nat.pow_zero, Nat.mul_one]

/-- Its magnitude, counted in least positive numbers. -/
theorem magnitude_of_not_integral (fraction : x.isIntegral = false) :
    x.denominator * 2 ^ x.place = 2 ^ 1074 := by
  have below := place_lt_of_not_integral fraction
  have places : 1074 - x.place + x.place = 1074 := Nat.sub_add_cancel (Nat.le_of_lt below)
  calc x.denominator * 2 ^ x.place
    _ = 2 ^ (1074 - x.place) * 2 ^ x.place := congrArg (· * 2 ^ x.place) x.denominator_eq
    _ = 2 ^ (1074 - x.place + x.place) := (Nat.pow_add 2 _ _).symm
    _ = 2 ^ 1074 := congrArg (2 ^ ·) places

/-- The whole part of a number with a fraction has at most 52 bits. -/
theorem whole_lt (fraction : x.isIntegral = false) :
    x.numerator / x.denominator < fractionCount := by
  have below := place_lt_of_not_integral fraction
  rw [Nat.div_lt_iff_lt_mul x.denominator_pos, numerator_of_not_integral fraction]
  have two : 2 ≤ x.denominator := by
    rw [denominator_eq]
    exact Nat.pow_le_pow_right (by decide : 0 < 2) (show 1 ≤ 1074 - x.place by omega)
  calc x.significand < 2 * fractionCount := x.significand_lt
    _ = fractionCount * 2 := Nat.mul_comm _ _
    _ ≤ fractionCount * x.denominator := Nat.mul_le_mul_left _ two

theorem log2_le_of_le {n : Nat} (small : n ≤ fractionCount) : n.log2 ≤ 52 := by
  by_cases zero : n = 0
  · subst zero
    decide
  · have bound : n < 2 ^ 53 := Nat.lt_of_le_of_lt small (by decide)
    exact Nat.le_of_lt_succ ((Nat.log2_lt zero).mpr bound)

/-- A whole number that is not above the magnitude has a rank that is not above. -/
theorem rankOfRatio_le (fraction : x.isIntegral = false) {n : Nat} (small : n ≤ fractionCount)
    (le : n * x.denominator ≤ x.numerator) : rankOfRatio n 1 ≤ x.rank.val := by
  by_cases zero : n = 0
  · subst zero
    exact Nat.zero_le _
  have bits := log2_le_of_le small
  obtain ⟨low, high⟩ := wholeSignificand_bounds zero bits
  rw [rankOfRatio_whole zero bits, rank_eq]
  apply rank_le_of_magnitude_le high (fun _ => low) fractionCount_le_significand x.significand_lt
  calc wholeSignificand n * 2 ^ (n.log2 + 1022) = n * (x.denominator * 2 ^ x.place) := by
        rw [wholeSignificand_mul bits, magnitude_of_not_integral fraction]
    _ = n * x.denominator * 2 ^ x.place := (Nat.mul_assoc _ _ _).symm
    _ ≤ x.significand * 2 ^ x.place := by
        rw [← numerator_of_not_integral fraction]
        exact Nat.mul_le_mul_right _ le

/-- A whole number that is not below the magnitude has a rank that is not below. -/
theorem le_rankOfRatio (fraction : x.isIntegral = false) {n : Nat} (positive : n ≠ 0)
    (small : n ≤ fractionCount) (le : x.numerator ≤ n * x.denominator) :
    x.rank.val ≤ rankOfRatio n 1 := by
  have bits := log2_le_of_le small
  obtain ⟨low, high⟩ := wholeSignificand_bounds positive bits
  rw [rankOfRatio_whole positive bits, rank_eq]
  apply rank_le_of_magnitude_le x.significand_lt fractionCount_le_significand (fun _ => low) high
  calc x.significand * 2 ^ x.place ≤ n * x.denominator * 2 ^ x.place := by
        rw [← numerator_of_not_integral fraction]
        exact Nat.mul_le_mul_right _ le
    _ = n * (x.denominator * 2 ^ x.place) := Nat.mul_assoc _ _ _
    _ = wholeSignificand n * 2 ^ (n.log2 + 1022) := by
        rw [wholeSignificand_mul bits, magnitude_of_not_integral fraction]

/-! ## Floors and ceilings -/

/-- The whole part of a magnitude, rounded, is not above it. -/
theorem rank_nearest_whole_le (fraction : x.isIntegral = false) (negative : Bool) :
    (nearest negative (x.numerator / x.denominator) 1).rank.val ≤ x.rank.val :=
  Nat.le_trans (Nat.min_le_left _ _) (rankOfRatio_le fraction (Nat.le_of_lt (whole_lt fraction))
    (Nat.div_mul_le_self _ _))

/-- The next whole number, rounded, is not below a magnitude. -/
theorem le_rank_nearest_next (fraction : x.isIntegral = false) (negative : Bool) :
    x.rank.val ≤ (nearest negative (x.numerator / x.denominator + 1) 1).rank.val := by
  have above := Nat.le_of_lt
    (Nat.lt_mul_of_div_lt (Nat.lt_succ_self (x.numerator / x.denominator)) x.denominator_pos)
  refine Nat.le_min.mpr ⟨?_, Nat.le_sub_one_of_lt x.rank.isLt⟩
  exact le_rankOfRatio fraction (Nat.succ_ne_zero _) (whole_lt fraction) above

theorem position_of_negative {x : Finite64} (sign : x.negative = true) :
    x.position = -(x.rank.val : Int) := if_pos sign

theorem position_of_not_negative {x : Finite64} (sign : x.negative = false) :
    x.position = x.rank.val := if_neg (by rw [sign]; exact Bool.false_ne_true)

theorem floor_of_not_integral (fraction : x.isIntegral = false) :
    x.floor = nearest x.negative (if x.negative then x.numerator / x.denominator + 1
      else x.numerator / x.denominator) 1 := by
  rw [floor, if_neg (by rw [fraction]; exact Bool.false_ne_true)]

theorem ceil_of_not_integral (fraction : x.isIntegral = false) :
    x.ceil = nearest x.negative (if x.negative then x.numerator / x.denominator
      else x.numerator / x.denominator + 1) 1 := by
  rw [ceil, if_neg (by rw [fraction]; exact Bool.false_ne_true)]

/-- A floor is not above its number. -/
theorem position_floor_le (x : Finite64) : x.floor.position ≤ x.position := by
  cases fraction : x.isIntegral with
  | true =>
    exact Int.le_of_eq (congrArg position (if_pos fraction))
  | false =>
    -- The magnitude of a negative number grows where the number gets smaller.
    cases sign : x.negative with
    | true =>
      have above := le_rank_nearest_next fraction true
      rw [floor_of_not_integral fraction, sign, if_pos rfl, position_of_negative rfl,
        position_of_negative sign]
      omega
    | false =>
      have below := rank_nearest_whole_le fraction false
      rw [floor_of_not_integral fraction, sign, if_neg Bool.false_ne_true,
        position_of_not_negative rfl, position_of_not_negative sign]
      omega

/-- A ceiling is not below its number. -/
theorem position_le_ceil (x : Finite64) : x.position ≤ x.ceil.position := by
  cases fraction : x.isIntegral with
  | true =>
    exact Int.le_of_eq (congrArg position (if_pos fraction).symm)
  | false =>
    cases sign : x.negative with
    | true =>
      have below := rank_nearest_whole_le fraction true
      rw [ceil_of_not_integral fraction, sign, if_pos rfl, position_of_negative sign,
        position_of_negative rfl]
      omega
    | false =>
      have above := le_rank_nearest_next fraction false
      rw [ceil_of_not_integral fraction, sign, if_neg Bool.false_ne_true,
        position_of_not_negative sign, position_of_not_negative rfl]
      omega

/-! ## Numbers at one position -/

/-- Two numbers at one position are one number, or zeros. -/
theorem eq_or_zero_of_position_eq {x y : Finite64} (same : x.position = y.position) :
    x = y ∨ x.rank.val = 0 ∧ y.rank.val = 0 := by
  obtain ⟨sign, rank⟩ := x
  obtain ⟨sign', rank'⟩ := y
  rw [position, position] at same
  cases sign <;> cases sign'
  case false.false => exact .inl (congrArg _ (Fin.ext (Int.ofNat.inj same)))
  case true.true => exact .inl (congrArg _ (Fin.ext (Int.ofNat.inj (Int.neg_inj.mp same))))
  all_goals
    refine .inr (show rank.val = 0 ∧ rank'.val = 0 from ?_)
    simp only [if_true, Bool.false_eq_true, if_false] at same
    omega

theorem isIntegral_of_rank_eq_zero {x : Finite64} (zero : x.rank.val = 0) : x.isIntegral = true := by
  have significand : x.significand = 0 := by
    rw [significand, biased, zero, Nat.zero_div, if_pos rfl]
  rw [isIntegral, numerator, significand, Nat.zero_mul, Nat.zero_mod]
  rfl

theorem position_floor_congr {x y : Finite64} (same : x.position = y.position) :
    x.floor.position = y.floor.position := by
  rcases eq_or_zero_of_position_eq same with rfl | ⟨zero, zero'⟩
  · rfl
  · rw [floor, floor, if_pos (isIntegral_of_rank_eq_zero zero), if_pos (isIntegral_of_rank_eq_zero zero'),
      same]

theorem position_ceil_congr {x y : Finite64} (same : x.position = y.position) :
    x.ceil.position = y.ceil.position := by
  rcases eq_or_zero_of_position_eq same with rfl | ⟨zero, zero'⟩
  · rfl
  · rw [ceil, ceil, if_pos (isIntegral_of_rank_eq_zero zero), if_pos (isIntegral_of_rank_eq_zero zero'),
      same]

end LiveMarkup.Finite64
