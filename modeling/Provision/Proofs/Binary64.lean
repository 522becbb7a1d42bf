import Mathlib.Algebra.Order.Field.Power
import Mathlib.Data.Nat.Log
import Mathlib.Data.Rat.Floor
import Mathlib.Tactic.Linarith
import Mathlib.Tactic.Positivity
import Mathlib.Tactic.Ring
import Provision.Binary64

/-! Whole numbers of moderate size have finite doubles, and no other double is nearer to them. -/

namespace Provision.Binary64

/-- The number that a finite double stands for. -/
def toRat (x : Binary64) : ℚ :=
  (if x.negative then -1 else 1) * (x.significand * 2 ^ ((x.scale : ℤ) - 1075))

/-- Division to the nearest whole number leaves no other one nearer. -/
theorem divNearest_nearest {num den : Nat} (positive : 0 < den) (other : ℤ) :
    |(divNearest num den : ℤ) * den - num| ≤ |other * den - num| := by
  -- Everything is measured in multiples of the divisor, with the remainder as what is left.
  have whole : (num : ℤ) = den * (num / den : ℕ) + (num % den : ℕ) := by
    exact_mod_cast (Nat.div_add_mod num den).symm
  have small : num % den < den := Nat.mod_lt num positive
  unfold divNearest
  dsimp only
  generalize num / den = low at whole ⊢
  generalize num % den = left at whole small ⊢
  -- A whole number up to the quotient lies as far away as the rest, and one above it
  -- as far as what the rest lacks.
  have reach : ∀ distance : ℤ, distance ≤ left → distance ≤ den - left →
      distance ≤ |other * den - num| := by
    intro distance below above
    rcases le_or_gt other low with before | behind
    · have far : other * den ≤ low * den := by gcongr
      rw [abs_sub_comm]
      refine le_trans ?_ (le_abs_self _)
      linarith [mul_comm (den : ℤ) low]
    · have far : ((low : ℤ) + 1) * den ≤ other * den := by gcongr; omega
      refine le_trans ?_ (le_abs_self _)
      linarith [mul_comm (den : ℤ) low]
  -- The two candidates are these distances away, and one of them is chosen.
  have here : |(low : ℤ) * den - num| = left := by
    rw [whole, mul_comm, sub_add_cancel_left, abs_neg, Nat.abs_cast]
  have next : |((low + 1 : ℕ) : ℤ) * den - num| = den - left := by
    rw [whole, abs_of_nonneg] <;> push_cast <;> linarith [mul_comm (den : ℤ) low]
  -- The nearer candidate is chosen, and of two that are equally near the even one.
  split
  · rw [here]
    exact reach _ le_rfl (by omega)
  · split
    · rw [next]
      exact reach _ (by omega) le_rfl
    · split
      · rw [here]
        exact reach _ le_rfl (by omega)
      · rw [next]
        exact reach _ (by omega) le_rfl

/-- Far below the largest scale there is no infinity, and a significand of 53 bits is kept. -/
theorem ofScaled_toRat {negative : Bool} {significand scale : Nat} (normal : 1 ≤ scale)
    (small : scale < 2046) (low : 4503599627370496 ≤ significand)
    (high : significand ≤ 9007199254740992) :
    (ofScaled negative significand scale).isFinite = true ∧
      (ofScaled negative significand scale).toRat =
        (if negative then -1 else 1) * (significand * 2 ^ ((scale : ℤ) - 1075)) := by
  -- Only a significand at the bound itself is carried into the next power of two.
  unfold ofScaled
  dsimp only
  by_cases carried : significand = 9007199254740992
  · -- One bit too many is one more in the scale.
    subst carried
    simp only [if_true]
    rw [dif_neg (by omega), dif_neg (by omega)]
    refine ⟨by simp [isFinite]; omega, ?_⟩
    have double : (2 : ℚ) ^ ((scale : ℤ) + 1 - 1075) = 2 * 2 ^ ((scale : ℤ) - 1075) := by
      rw [show (scale : ℤ) + 1 - 1075 = (scale - 1075) + 1 by ring, zpow_add_one₀ two_ne_zero,
        mul_comm]
    have place : max 1 (scale + 1) = scale + 1 := by omega
    simp only [toRat, Binary64.significand, Binary64.scale, Nat.add_eq_zero_iff, one_ne_zero,
      and_false, if_false, place]
    push_cast
    rw [double]
    ring
  · simp only [carried, if_false]
    rw [dif_neg (by omega), dif_neg (by omega)]
    -- Without a carry the leading digit is dropped on packing and added back on reading.
    have kept : (significand - 4503599627370496) % 4503599627370496 =
        significand - 4503599627370496 := Nat.mod_eq_of_lt (by omega)
    have whole : 4503599627370496 + (significand - 4503599627370496) = significand := by omega
    have place : max 1 scale = scale := by omega
    refine ⟨by simp [isFinite]; omega, ?_⟩
    simp only [toRat, Binary64.significand, Binary64.scale, kept,
      if_neg (show scale ≠ 0 by omega), whole, place]

/-- A positive whole number has 53 binary digits at the scale of its leading digit. -/
theorem fittingScale_one {n : Nat} (positive : n ≠ 0) : fittingScale n 1 = n.log2 + 1023 := by
  -- The first guess already fits, since the leading digit decides it.
  have leading := Nat.log2_self_le positive
  have one : Nat.log2 1 = 0 := rfl
  have guess : max 1 (n.log2 + 1022) = n.log2 + 1022 := by omega
  have shift (m count : Nat) : m <<< count = m * 2 ^ count := Nat.shiftLeft_eq m count
  unfold fittingScale inUnits
  simp only [one, Nat.sub_zero, guess, shift, one_mul]
  -- As a variable the width is not computed with.
  obtain ⟨width, wide⟩ : ∃ w : Nat, w = 9007199254740992 := ⟨_, rfl⟩
  have bits : width = 2 ^ 53 := by rw [wide]; norm_num
  rw [← wide, if_pos]
  -- A number of more than 53 digits is shifted down, and one of fewer is shifted up.
  rcases le_or_gt 53 n.log2 with large | moderate
  · have none : 1075 - (n.log2 + 1022) = 0 := by omega
    have digits : 2 ^ (n.log2 + 1022 - 1075) * width = 2 ^ n.log2 := by
      rw [bits, ← Nat.pow_add, show n.log2 + 1022 - 1075 + 53 = n.log2 by omega]
    rw [none, pow_zero, mul_one]
    exact digits.trans_le leading
  · have none : n.log2 + 1022 - 1075 = 0 := by omega
    have digits : 2 ^ n.log2 * 2 ^ (1075 - (n.log2 + 1022)) = width := by
      rw [bits, ← Nat.pow_add, show n.log2 + (1075 - (n.log2 + 1022)) = 53 by omega]
    rw [none, pow_zero, one_mul]
    exact digits.symm.trans_le (Nat.mul_le_mul_right _ leading)

/-- In units of two to a scale a ratio is the same number. -/
theorem inUnits_ratio (num den scale : Nat) (positive : 0 < den) :
    ((inUnits num den scale).1 : ℚ) * 2 ^ ((scale : ℤ) - 1075) / (inUnits num den scale).2 =
      num / den := by
  -- The change of unit scales numerator and denominator alike.
  have some : (den : ℚ) ≠ 0 := by positivity
  unfold inUnits
  simp only [Nat.shiftLeft_eq, Nat.cast_mul, Nat.cast_pow, Nat.cast_ofNat]
  -- The shift is on the denominator at a large scale, and on the numerator at a small one.
  rcases le_or_gt 1075 scale with large | small
  · have unit : (2 : ℚ) ^ ((scale : ℤ) - 1075) = 2 ^ (scale - 1075) := by
      rw [← zpow_natCast]
      congr 1
      omega
    rw [unit, Nat.sub_eq_zero_of_le large]
    field_simp
  · have unit : (2 : ℚ) ^ ((scale : ℤ) - 1075) * 2 ^ (1075 - scale) = 1 := by
      rw [← zpow_natCast, ← zpow_add₀ two_ne_zero, Nat.cast_sub small.le]
      simp
    rw [Nat.sub_eq_zero_of_le small.le, mul_assoc, mul_comm (2 ^ (1075 - scale)), unit]
    simp

/-- Division to the nearest whole number is off the quotient by one at most. -/
theorem divNearest_bounds (num den : Nat) :
    num / den ≤ divNearest num den ∧ divNearest num den ≤ num / den + 1 := by
  -- Either the quotient itself is chosen or the number after it.
  unfold divNearest
  dsimp only
  split_ifs <;> omega

/-- The significand of a double has 53 bits. -/
theorem significand_lt (x : Binary64) : x.significand < 9007199254740992 := by
  -- The fraction has 52 bits, and at most one more stands in front of it.
  have fraction := x.fraction.isLt
  unfold significand
  split_ifs <;> omega

/-- A finite double is a whole number of units at every scale up to its own, and below 53 binary
digits of the units of a scale above its own. -/
theorem toRat_units (x : Binary64) (scale : Nat) :
    (∃ m : ℤ, x.toRat = m * 2 ^ ((scale : ℤ) - 1075)) ∨
      x.toRat ≤ 4503599627370496 * 2 ^ ((scale : ℤ) - 1075) := by
  rcases le_or_gt scale x.scale with below | above
  · -- The units of a larger scale are multiples of those of a smaller one.
    left
    refine ⟨(if x.negative then -1 else 1) * (x.significand * 2 ^ (x.scale - scale)), ?_⟩
    have split : (2 : ℚ) ^ ((x.scale : ℤ) - 1075) =
        2 ^ (x.scale - scale) * 2 ^ ((scale : ℤ) - 1075) := by
      rw [← zpow_natCast, ← zpow_add₀ two_ne_zero]
      congr 1
      omega
    unfold toRat
    rw [split]
    push_cast
    ring
  · -- Of units half as large at most there are fewer than twice as many.
    right
    -- Fewer than 53 digits of the smaller unit count for at most half as many of the larger.
    have digits : (x.significand : ℚ) ≤ 9007199254740992 := by exact_mod_cast x.significand_lt.le
    have half : 2 * (2 : ℚ) ^ ((x.scale : ℤ) - 1075) ≤ 2 ^ ((scale : ℤ) - 1075) := by
      rw [← zpow_one_add₀ two_ne_zero]
      exact zpow_le_zpow_right₀ one_le_two (by omega)
    have unit : (0 : ℚ) < 2 ^ ((x.scale : ℤ) - 1075) := by positivity
    have magnitude : (x.significand : ℚ) * 2 ^ ((x.scale : ℤ) - 1075) ≤
        4503599627370496 * 2 ^ ((scale : ℤ) - 1075) := by
      calc (x.significand : ℚ) * 2 ^ ((x.scale : ℤ) - 1075)
          ≤ 9007199254740992 * 2 ^ ((x.scale : ℤ) - 1075) := by gcongr
        _ = 4503599627370496 * (2 * 2 ^ ((x.scale : ℤ) - 1075)) := by ring
        _ ≤ 4503599627370496 * 2 ^ ((scale : ℤ) - 1075) := by gcongr
    refine le_trans ?_ magnitude
    have some : 0 ≤ (x.significand : ℚ) * 2 ^ ((x.scale : ℤ) - 1075) := by positivity
    unfold toRat
    split_ifs <;> linarith

/-- The leading digit of a whole number is the first of 53 at the scale that fits it. -/
theorem leading_units {n : Nat} (positive : n ≠ 0) :
    4503599627370496 * (2 : ℚ) ^ (((n.log2 + 1023 : ℕ) : ℤ) - 1075) ≤ n ∧
      (n : ℚ) < 9007199254740992 * (2 : ℚ) ^ (((n.log2 + 1023 : ℕ) : ℤ) - 1075) := by
  -- Both bounds are powers of two once the two factors of each are joined.
  have width : (4503599627370496 : ℚ) = 2 ^ (52 : ℤ) := by norm_num
  have wider : (9007199254740992 : ℚ) = 2 ^ (53 : ℤ) := by norm_num
  rw [width, wider, ← zpow_add₀ two_ne_zero, ← zpow_add₀ two_ne_zero,
    show (52 : ℤ) + (((n.log2 + 1023 : ℕ) : ℤ) - 1075) = n.log2 by omega,
    show (53 : ℤ) + (((n.log2 + 1023 : ℕ) : ℤ) - 1075) = (n.log2 + 1 : ℕ) by omega,
    zpow_natCast, zpow_natCast]
  exact ⟨by exact_mod_cast Nat.log2_self_le positive, by exact_mod_cast Nat.lt_log2_self⟩

/-- A ratio of 53 binary digits in units of two to a scale below the largest ones is rounded to a
number, and no whole number of those units is nearer. -/
theorem ofScaled_nearest {top bottom scale : Nat} {number : ℚ} (some : 0 < bottom)
    (normal : 1 ≤ scale) (small : scale < 2046)
    (value : (top : ℚ) * 2 ^ ((scale : ℤ) - 1075) / bottom = number)
    (low : 4503599627370496 * 2 ^ ((scale : ℤ) - 1075) ≤ number)
    (high : number < 9007199254740992 * 2 ^ ((scale : ℤ) - 1075)) :
    (ofScaled false (divNearest top bottom) scale).isFinite = true ∧
      ∀ m : ℤ, |(ofScaled false (divNearest top bottom) scale).toRat - number| ≤
        |m * 2 ^ ((scale : ℤ) - 1075) - number| := by
  -- As a variable the unit is not computed with.
  obtain ⟨unit, unit_eq⟩ : ∃ u : ℚ, u = 2 ^ ((scale : ℤ) - 1075) := ⟨_, rfl⟩
  have unit_pos : 0 < unit := by rw [unit_eq]; positivity
  have bottom_pos : (0 : ℚ) < bottom := by exact_mod_cast some
  rw [← unit_eq, div_eq_iff bottom_pos.ne'] at value
  rw [← unit_eq] at low high
  -- The quotient has 53 digits, and rounding adds one unit at most.
  have least : 4503599627370496 ≤ top / bottom := by
    have : 4503599627370496 * (bottom : ℚ) ≤ top := by
      refine le_of_mul_le_mul_right ?_ unit_pos
      rw [value, mul_right_comm]
      gcongr
    exact (Nat.le_div_iff_mul_le some).mpr (by exact_mod_cast this)
  have most : top / bottom < 9007199254740992 := by
    have : (top : ℚ) < 9007199254740992 * bottom := by
      refine lt_of_mul_lt_mul_right ?_ unit_pos.le
      rw [value, mul_right_comm]
      gcongr
    exact (Nat.div_lt_iff_lt_mul some).mpr (by exact_mod_cast this)
  obtain ⟨above, below⟩ := divNearest_bounds top bottom
  have ⟨finite, exact⟩ : (ofScaled false (divNearest top bottom) scale).isFinite = true ∧ _ :=
    ofScaled_toRat normal small (least.trans above) (below.trans most)
  refine ⟨finite, fun m => ?_⟩
  -- Distances from the number in units are distances from the numerator.
  have gap (m : ℤ) : |m * unit - number| * bottom = |(m : ℚ) * bottom - top| * unit := by
    rw [← abs_of_pos bottom_pos, ← abs_mul, abs_of_pos bottom_pos, sub_mul, ← value, mul_right_comm,
      ← sub_mul, abs_mul, abs_of_pos unit_pos]
  have nearest : |((divNearest top bottom : ℕ) : ℚ) * bottom - top| ≤ |(m : ℚ) * bottom - top| := by
    exact_mod_cast divNearest_nearest some m
  -- It remains to compare with the numerator, where nearest division decides.
  refine le_of_mul_le_mul_right ?_ bottom_pos
  have rounded := gap (divNearest top bottom)
  rw [Int.cast_natCast] at rounded
  rw [exact, ← unit_eq, gap m, if_neg Bool.false_ne_true, one_mul, rounded]
  gcongr

/-- The double of a positive whole number of 64 bits is a number, and no other double is nearer. -/
theorem ofInt_nearest {n : Nat} (positive : n ≠ 0) (bounded : n < 2 ^ 64) :
    (ofInt n).isFinite = true ∧ ∀ x : Binary64, |(ofInt n).toRat - n| ≤ |x.toRat - n| := by
  -- Below 64 digits the scale of the leading one is in the normal range.
  have size : n.log2 < 64 := (Nat.log2_lt positive).mpr bounded
  have value := inUnits_ratio n 1 (n.log2 + 1023) one_pos
  rw [Nat.cast_one, div_one] at value
  obtain ⟨low, high⟩ := leading_units positive
  have rounded : ofInt n =
      ofScaled false (divNearest (inUnits n 1 (n.log2 + 1023)).1 (inUnits n 1 (n.log2 + 1023)).2)
        (n.log2 + 1023) := by
    simp [ofInt, ofRatio, positive, fittingScale_one positive, Int.not_lt.mpr]
  have some : 0 < (inUnits n 1 (n.log2 + 1023)).2 := by simp [inUnits, Nat.shiftLeft_eq]
  obtain ⟨finite, nearest⟩ := ofScaled_nearest some (by omega) (by omega) value low high
  rw [rounded]
  refine ⟨finite, fun x => ?_⟩
  -- Another double is a whole number of the same units, or it lies below them all.
  rcases toRat_units x (n.log2 + 1023) with ⟨m, whole⟩ | beneath
  · rw [whole]
    exact nearest m
  · -- Such a double lies below the leading digit, which is no farther from the number.
    refine (nearest 4503599627370496).trans ?_
    rw [Int.cast_ofNat, abs_sub_comm, abs_sub_comm x.toRat, abs_of_nonneg, abs_of_nonneg] <;>
      linarith

end Provision.Binary64
