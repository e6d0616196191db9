/-
This file is a small library on decimal rounding, as the C library does it when it
prints a number in scientific notation: to the nearest decimal with one digit before
the point and a given number of places behind it, ties to even.

A decimal with that many places is not moved, and rounding never takes a number across
one: what is below it stays below it or lands on it. The result of a rounding has that
many places, also when it carries into another power of ten, so that this holds of the
results of coarser roundings.
-/

import Mathlib.Data.Int.Log
import Mathlib.Algebra.Order.Floor.Ring
import Mathlib.Algebra.Order.Round
import Mathlib.Tactic.Linarith
import Mathlib.Tactic.Ring

namespace SensorGateway.Decimal

variable {Number : Type} [Field Number] [LinearOrder Number] [FloorRing Number]

/-! ### Rounding to an integer -/

/-- The nearest integer, ties to even. -/
def roundHalfEven (number : Number) : Int :=
  if Int.fract number < 1 / 2 then ⌊number⌋
  else if 1 / 2 < Int.fract number then ⌊number⌋ + 1
  else if ⌊number⌋ % 2 = 0 then ⌊number⌋
  else ⌊number⌋ + 1

theorem roundHalfEven_le_floor_add_one (number : Number) :
    roundHalfEven number ≤ ⌊number⌋ + 1 := by
  unfold roundHalfEven
  split_ifs <;> omega

variable [IsStrictOrderedRing Number]

theorem roundHalfEven_intCast (integer : Int) : roundHalfEven (integer : Number) = integer := by
  unfold roundHalfEven
  rw [Int.fract_intCast, if_pos (by norm_num), Int.floor_intCast]

theorem roundHalfEven_le {number : Number} {integer : Int} (below : number ≤ integer) :
    roundHalfEven number ≤ integer := by
  rcases below.eq_or_lt with rfl | less
  · rw [roundHalfEven_intCast]
  · exact (roundHalfEven_le_floor_add_one number).trans (Int.floor_lt.mpr less)

theorem roundHalfEven_neg (number : Number) : roundHalfEven (-number) = -roundHalfEven number := by
  by_cases whole : Int.fract number = 0
  · obtain ⟨integer, rfl⟩ : ∃ integer : Int, number = integer :=
      ⟨⌊number⌋, by rw [← Int.floor_add_fract number, whole]; simp⟩
    rw [← Int.cast_neg, roundHalfEven_intCast, roundHalfEven_intCast]
  · have fract := Int.fract_neg whole
    have inside := (Int.fract_nonneg number).lt_of_ne (Ne.symm whole)
    have floor : ⌊-number⌋ = -⌊number⌋ - 1 := by
      rw [Int.floor_eq_iff]
      push_cast
      have split := Int.floor_add_fract number
      have below := Int.fract_lt_one number
      constructor <;> linarith
    unfold roundHalfEven
    rw [fract, floor]
    rcases lt_trichotomy (Int.fract number) (1 / 2) with low | half | high
    · rw [if_neg (by linarith), if_pos (by linarith), if_pos low]
      ring
    · have mirrored : (1 : Number) - 1 / 2 = 1 / 2 := by norm_num
      rw [half, mirrored]
      simp only [lt_irrefl, if_false]
      split_ifs <;> omega
    · rw [if_pos (by linarith), if_neg (by linarith), if_pos high]
      ring

/-! ### Rounding to a number of places -/

/-- The unit in the last of so many places of a number in scientific notation. -/
def unit (places : Nat) (number : Number) : Number := 10 ^ (Int.log 10 |number| - places)

/-- The nearest number with one digit before the point and so many places behind it. -/
def roundScientific (places : Nat) (number : Number) : Number :=
  roundHalfEven (number / unit places number) * unit places number

/-- The number has so many places in scientific notation. -/
def HasPlaces (places : Nat) (number : Number) : Prop :=
  ∃ integer : Int, number = integer * unit places number

variable {places : Nat} {number other : Number}

theorem unit_pos (places : Nat) (number : Number) : 0 < unit places number :=
  zpow_pos (by norm_num) _

omit [IsStrictOrderedRing Number] in
@[simp] theorem unit_neg (places : Nat) (number : Number) :
    unit places (-number) = unit places number := by
  unfold unit
  rw [abs_neg]

theorem roundScientific_neg (places : Nat) (number : Number) :
    roundScientific places (-number) = -roundScientific places number := by
  unfold roundScientific
  rw [unit_neg, neg_div, roundHalfEven_neg, Int.cast_neg, neg_mul]

theorem roundScientific_zero (places : Nat) : roundScientific places (0 : Number) = 0 := by
  unfold roundScientific
  rw [zero_div, ← Int.cast_zero, roundHalfEven_intCast, Int.cast_zero, zero_mul]

omit [IsStrictOrderedRing Number] in
theorem HasPlaces.neg (has : HasPlaces places number) : HasPlaces places (-number) := by
  obtain ⟨integer, same⟩ := has
  refine ⟨-integer, ?_⟩
  rw [unit_neg, Int.cast_neg, neg_mul, ← same]

/-- Rounding does not cross a multiple of its unit. -/
theorem roundScientific_le_multiple {integer : Int}
    (below : number ≤ integer * unit places number) :
    roundScientific places number ≤ integer * unit places number := by
  have positive := unit_pos places number
  refine mul_le_mul_of_nonneg_right ?_ positive.le
  exact Int.cast_le.mpr (roundHalfEven_le ((div_le_iff₀ positive).mpr below))

omit [IsStrictOrderedRing Number] in
/-- A power of ten that is not below the unit is a multiple of it. -/
theorem exists_zpow_eq {exponent : Int} (coarse : Int.log 10 |number| - places ≤ exponent) :
    ∃ integer : Int, (10 : Number) ^ exponent = integer * unit places number := by
  obtain ⟨more, same⟩ := Int.le.dest coarse
  refine ⟨10 ^ more, ?_⟩
  unfold unit
  rw [← same, zpow_add₀ (by norm_num), zpow_natCast, mul_comm]
  push_cast
  rfl

omit [IsStrictOrderedRing Number] in
/-- A decimal of a magnitude that is not smaller is a multiple of the unit. -/
theorem HasPlaces.exists_multiple (has : HasPlaces places other)
    (larger : Int.log 10 |number| ≤ Int.log 10 |other|) :
    ∃ integer : Int, other = integer * unit places number := by
  obtain ⟨factor, same⟩ := has
  obtain ⟨scale, scaled⟩ : ∃ integer : Int,
      (10 : Number) ^ (Int.log 10 |other| - places) = integer * unit places number :=
    exists_zpow_eq (by omega)
  refine ⟨factor * scale, ?_⟩
  rw [same]
  unfold unit at scaled ⊢
  rw [scaled]
  push_cast
  ring

theorem zpow_log_le {number : Number} (nonzero : number ≠ 0) :
    (10 : Number) ^ Int.log 10 |number| ≤ |number| := by
  exact_mod_cast Int.zpow_log_le_self (show 1 < 10 by norm_num) (abs_pos.mpr nonzero)

theorem lt_zpow_log_succ (number : Number) :
    |number| < (10 : Number) ^ (Int.log 10 |number| + 1) := by
  exact_mod_cast Int.lt_zpow_succ_log_self (show 1 < 10 by norm_num) |number|

/-- A number below a decimal with so many places is not rounded above it. -/
theorem roundScientific_le (has : HasPlaces places other) (below : number ≤ other) :
    roundScientific places number ≤ other := by
  rcases le_or_gt (Int.log 10 |number|) (Int.log 10 |other|) with larger | smaller
  · obtain ⟨integer, same⟩ := has.exists_multiple larger
    rw [same]
    exact roundScientific_le_multiple (same ▸ below)
  · -- The decimal is so much smaller that a power of ten lies between.
    have magnitude : |other| < (10 : Number) ^ Int.log 10 |number| :=
      (lt_zpow_log_succ other).trans_le (zpow_le_zpow_right₀ (by norm_num) smaller)
    obtain ⟨power, same⟩ : ∃ integer : Int,
        (10 : Number) ^ Int.log 10 |number| = integer * unit places number :=
      exists_zpow_eq (by omega)
    rcases lt_or_ge number 0 with negative | nonnegative
    · have apart := zpow_log_le negative.ne
      rw [abs_of_neg negative] at apart magnitude same
      have rounded :
          roundScientific places number ≤ ((-power : Int) : Number) * unit places number :=
        roundScientific_le_multiple (by push_cast; linarith)
      have near := neg_le_of_abs_le magnitude.le
      push_cast at rounded
      linarith
    · -- A number that is not negative is not of a larger magnitude, unless it is zero.
      rcases nonnegative.eq_or_lt with rfl | positive
      · rw [roundScientific_zero]
        exact below
      · refine absurd (Int.log_mono_right (abs_pos.mpr positive.ne') ?_) (not_le.mpr smaller)
        rw [abs_of_pos positive]
        exact below.trans (le_abs_self other)

/-- A number above a decimal with so many places is not rounded below it. -/
theorem le_roundScientific (has : HasPlaces places other) (above : other ≤ number) :
    other ≤ roundScientific places number := by
  have mirrored := roundScientific_le has.neg (neg_le_neg above)
  rwa [roundScientific_neg, neg_le_neg_iff] at mirrored

/-- A decimal with so many places is not moved. -/
theorem HasPlaces.roundScientific_eq (has : HasPlaces places number) :
    roundScientific places number = number :=
  le_antisymm (roundScientific_le has le_rfl) (le_roundScientific has le_rfl)

/-! ### The places of a rounded number -/

theorem log_abs_zpow (exponent : Int) : Int.log 10 |(10 : Number) ^ exponent| = exponent := by
  rw [abs_of_pos (zpow_pos (by norm_num) exponent)]
  have same : Int.log 10 (((10 : ℕ) : Number) ^ exponent) = exponent :=
    Int.log_zpow (by norm_num) exponent
  rwa [Nat.cast_ofNat] at same

theorem hasPlaces_zpow (places : Nat) (exponent : Int) :
    HasPlaces places ((10 : Number) ^ exponent) := by
  refine exists_zpow_eq ?_
  rw [log_abs_zpow]
  omega

theorem roundScientific_zpow (places : Nat) (exponent : Int) :
    roundScientific places ((10 : Number) ^ exponent) = 10 ^ exponent :=
  (hasPlaces_zpow places exponent).roundScientific_eq

/-- Rounding carries at most into the next power of ten. -/
theorem abs_roundScientific_le (places : Nat) (number : Number) :
    |roundScientific places number| ≤ (10 : Number) ^ (Int.log 10 |number| + 1) := by
  have power : HasPlaces places ((10 : Number) ^ (Int.log 10 |number| + 1)) :=
    hasPlaces_zpow places _
  have bound := abs_le.mp (lt_zpow_log_succ number).le
  exact abs_le.mpr ⟨le_roundScientific power.neg bound.1, roundScientific_le power bound.2⟩

theorem log_abs_roundScientific_le (nonzero : roundScientific places number ≠ 0) :
    Int.log 10 |roundScientific places number| ≤ Int.log 10 |number| + 1 :=
  (Int.log_mono_right (abs_pos.mpr nonzero) (abs_roundScientific_le places number)).trans_eq
    ((congrArg (Int.log 10) (abs_of_pos (zpow_pos (by norm_num) _)).symm).trans (log_abs_zpow _))

/-- A number rounded to fewer places is a decimal with one place more, also where it carried. -/
theorem hasPlaces_roundScientific (places : Nat) (number : Number) :
    HasPlaces (places + 1) (roundScientific places number) := by
  by_cases zero : roundScientific places number = 0
  · exact ⟨0, by rw [zero, Int.cast_zero, zero_mul]⟩
  · have carried := log_abs_roundScientific_le zero
    obtain ⟨scale, same⟩ : ∃ integer : Int, (10 : Number) ^ (Int.log 10 |number| - places) =
        integer * unit (places + 1) (roundScientific places number) :=
      exists_zpow_eq (by push_cast; omega)
    refine ⟨roundHalfEven (number / unit places number) * scale, ?_⟩
    rw [Int.cast_mul, mul_assoc, ← same]
    rfl

end SensorGateway.Decimal
