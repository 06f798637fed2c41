import Mathlib.Algebra.Order.Field.Power
import Mathlib.Data.Int.Log
import Mathlib.Data.Rat.Floor
import Mathlib.Tactic.Linarith
import Mathlib.Tactic.NormNum
import Mathlib.Tactic.Positivity
import Mathlib.Tactic.Ring

/-!
# Rounding to the nearest, ties to even

Rounding a rational to an integer, and a non-negative one to `binary64`.  Where a rounded value
reaches a power of two is decided by the midpoint below it.

The module names no particular program.
-/

/-- The nearest integer, the even one of two. -/
def roundHalfEven (value : ℚ) : ℤ :=
  let below := ⌊value⌋
  if value - below < 1 / 2 then below
  else if 1 / 2 < value - below then below + 1
  else if below % 2 = 0 then below
  else below + 1

section RoundHalfEven

variable {value : ℚ}

theorem roundHalfEven_cases (value : ℚ) :
    roundHalfEven value = ⌊value⌋ ∧ value ≤ ⌊value⌋ + 1 / 2 ∨
      roundHalfEven value = ⌊value⌋ + 1 ∧ (⌊value⌋ : ℚ) + 1 / 2 ≤ value := by
  unfold roundHalfEven
  dsimp only
  split
  · exact .inl ⟨rfl, by linarith⟩
  · next up =>
      split
      · exact .inr ⟨rfl, by linarith⟩
      · next down =>
          split
          · exact .inl ⟨rfl, by linarith⟩
          · exact .inr ⟨rfl, by linarith⟩

/-- An even integer is reached from its lower midpoint on. -/
theorem even_le_roundHalfEven_iff {n : ℤ} (even : n % 2 = 0) :
    n ≤ roundHalfEven value ↔ (n : ℚ) - 1 / 2 ≤ value := by
  have below := Int.floor_le value
  have above := Int.lt_floor_add_one value
  constructor
  · intro le
    have le' : (n : ℚ) ≤ (roundHalfEven value : ℤ) := by exact_mod_cast le
    rcases roundHalfEven_cases value with ⟨same, -⟩ | ⟨same, half⟩
    · rw [same] at le'
      linarith
    · rw [same] at le'
      push_cast at le'
      linarith
  · intro le
    have near : n ≤ ⌊value⌋ + 1 := by
      have lt : (n : ℚ) < (⌊value⌋ : ℚ) + 2 := by linarith
      have lt' : n < ⌊value⌋ + 2 := by exact_mod_cast lt
      omega
    rcases roundHalfEven_cases value with ⟨same, half⟩ | ⟨same, -⟩
    · rw [same]
      rcases Int.lt_or_eq_of_le near with lt | eq
      · omega
      · -- Just at the midpoint, the even neighbour is taken.
        have tie : value - ⌊value⌋ = 1 / 2 := by
          rw [eq] at le
          push_cast at le
          linarith
        unfold roundHalfEven at same
        dsimp only at same
        rw [tie, if_neg (lt_irrefl _), if_neg (lt_irrefl _)] at same
        split at same
        · omega
        · omega
    · rw [same]
      exact near

/-- An integer that is not passed is not rounded past. -/
theorem roundHalfEven_le_of_lt {n : ℤ} (lt : value < n) : roundHalfEven value ≤ n := by
  have floor_lt : ⌊value⌋ < n := Int.floor_lt.mpr lt
  rcases roundHalfEven_cases value with ⟨same, -⟩ | ⟨same, -⟩
  · omega
  · omega

theorem roundHalfEven_nonneg (h : 0 ≤ value) : 0 ≤ roundHalfEven value := by
  rw [even_le_roundHalfEven_iff (by norm_num)]
  push_cast
  linarith

end RoundHalfEven

/-- A non-negative `binary64`. -/
inductive Binary64 where
  | finite (value : ℚ)
  | infinity

namespace Binary64

/-- The exponent of a value's last place. -/
def exponent (value : ℚ) : ℤ := max (Int.log 2 value - 52) (-1074)

/-- The value on the grid of its binade. -/
def rounded (value : ℚ) : ℚ := roundHalfEven (value / 2 ^ exponent value) * 2 ^ exponent value

def ofRat (value : ℚ) : Binary64 :=
  if rounded value < 2 ^ (1024 : ℤ) then .finite (rounded value) else .infinity

section Rounded

variable {value : ℚ}

theorem rounded_nonneg (h : 0 ≤ value) : 0 ≤ rounded value := by
  unfold rounded
  have units : 0 ≤ roundHalfEven (value / 2 ^ exponent value) :=
    roundHalfEven_nonneg (by positivity)
  have units' : (0 : ℚ) ≤ (roundHalfEven (value / 2 ^ exponent value) : ℤ) := by
    exact_mod_cast units
  positivity

theorem exponent_of_normal {k : ℤ} (normal : -1022 ≤ k) (low : (2 : ℚ) ^ k ≤ value)
    (high : value < 2 ^ (k + 1)) : exponent value = k - 52 := by
  have pos : 0 < value := lt_of_lt_of_le (by positivity) low
  have ge : k ≤ Int.log 2 value := (Int.zpow_le_iff_le_log (by norm_num) pos).mp (by simpa using low)
  have lt : Int.log 2 value < k + 1 :=
    (Int.lt_zpow_iff_log_lt (by norm_num) pos).mp (by simpa using high)
  unfold exponent
  omega

theorem zpow_split (k : ℤ) (n : ℕ) : (2 : ℚ) ^ k = 2 ^ n * 2 ^ (k - n) := by
  rw [← zpow_natCast, ← zpow_add₀ (by norm_num)]
  congr 1
  omega

/-- In a binade, a value in units of the last place. -/
theorem rounded_of_normal {k : ℤ} (normal : -1022 ≤ k) (low : (2 : ℚ) ^ k ≤ value)
    (high : value < 2 ^ (k + 1)) :
    rounded value = roundHalfEven (value / 2 ^ (k - 52)) * 2 ^ (k - 52) := by
  unfold rounded
  rw [exponent_of_normal normal low high]

/-- A value does not round past a power of two above it. -/
theorem rounded_le_of_lt {k : ℤ} (normal : -1022 ≤ k) (nonneg : 0 ≤ value)
    (high : value < 2 ^ (k + 1)) : rounded value ≤ 2 ^ (k + 1) := by
  rcases nonneg.eq_or_lt with rfl | pos
  · unfold rounded roundHalfEven
    simp
    positivity
  · have top : Int.log 2 value ≤ k := by
      have lt := (Int.lt_zpow_iff_log_lt (b := 2) (by norm_num) pos (x := k + 1)).mp
        (by simpa using high)
      omega
    have exponent_le : exponent value ≤ k - 52 := by
      unfold exponent
      omega
    have units : value / 2 ^ exponent value < ((2 ^ 53 : ℤ) : ℚ) := by
      rw [div_lt_iff₀ (by positivity)]
      have below := Int.lt_zpow_succ_log_self (b := 2) (by norm_num) value
      have log_le : Int.log 2 value + 1 ≤ exponent value + 53 := by
        unfold exponent
        omega
      push_cast at below ⊢
      calc value < 2 ^ (Int.log 2 value + 1) := below
        _ ≤ 2 ^ (exponent value + 53) := zpow_le_zpow_right₀ (by norm_num) log_le
        _ = 2 ^ 53 * 2 ^ exponent value := by
          rw [zpow_add₀ (by norm_num), mul_comm]
          norm_cast
    have le := roundHalfEven_le_of_lt units
    have le' : ((roundHalfEven (value / 2 ^ exponent value) : ℤ) : ℚ) ≤ 2 ^ 53 := by
      exact_mod_cast le
    unfold rounded
    calc _ ≤ (2 : ℚ) ^ 53 * 2 ^ exponent value :=
          mul_le_mul_of_nonneg_right le' (by positivity)
      _ ≤ 2 ^ 53 * 2 ^ (k - 52) :=
          mul_le_mul_of_nonneg_left (zpow_le_zpow_right₀ (by norm_num) exponent_le) (by positivity)
      _ = 2 ^ (k + 1) := by
          rw [zpow_split (k + 1) 53]
          congr 2
          push_cast
          omega

/-- A value does not round below a power of two under it. -/
theorem le_rounded_of_le {k : ℤ} (normal : -1022 ≤ k) (low : (2 : ℚ) ^ k ≤ value) :
    (2 : ℚ) ^ k ≤ rounded value := by
  have pos : 0 < value := lt_of_lt_of_le (by positivity) low
  have ge : k ≤ Int.log 2 value := (Int.zpow_le_iff_le_log (by norm_num) pos).mp (by simpa using low)
  have bottom := Int.zpow_log_le_self (b := 2) (by norm_num) pos
  have exponent_eq : exponent value = Int.log 2 value - 52 := by
    unfold exponent
    omega
  have units : (2 ^ 52 : ℤ) ≤ roundHalfEven (value / 2 ^ exponent value) := by
    rw [even_le_roundHalfEven_iff (by norm_num), le_div_iff₀ (by positivity)]
    push_cast at bottom ⊢
    calc ((2 : ℚ) ^ 52 - 1 / 2) * 2 ^ exponent value
        ≤ 2 ^ 52 * 2 ^ exponent value :=
          mul_le_mul_of_nonneg_right (by norm_num) (by positivity)
      _ = 2 ^ Int.log 2 value := by
          rw [zpow_split (Int.log 2 value) 52, exponent_eq]
          norm_cast
      _ ≤ value := bottom
  have units' : (2 : ℚ) ^ 52 ≤ ((roundHalfEven (value / 2 ^ exponent value) : ℤ) : ℚ) := by
    exact_mod_cast units
  unfold rounded
  calc (2 : ℚ) ^ k ≤ 2 ^ Int.log 2 value := zpow_le_zpow_right₀ (by norm_num) ge
    _ = 2 ^ 52 * 2 ^ exponent value := by
        rw [zpow_split (Int.log 2 value) 52, exponent_eq]
        norm_cast
    _ ≤ _ := mul_le_mul_of_nonneg_right units' (by positivity)

/-- A power of two is reached from the midpoint below it on. -/
theorem le_rounded_iff {k : ℤ} (normal : -1021 ≤ k) (nonneg : 0 ≤ value) :
    (2 : ℚ) ^ (k + 1) ≤ rounded value ↔ (2 : ℚ) ^ (k + 1) - 2 ^ (k - 53) ≤ value := by
  have unit : (2 : ℚ) ^ (k - 52) = 2 * 2 ^ (k - 53) := by
    rw [zpow_split (k - 52) 1]
    congr 2
    push_cast
    omega
  have top : (2 : ℚ) ^ (k + 1) = 2 ^ 53 * 2 ^ (k - 52) := by
    rw [zpow_split (k + 1) 53]
    congr 2
    push_cast
    omega
  have half : (2 : ℚ) ^ (k + 1) = 2 * 2 ^ k := by
    rw [zpow_add₀ (by norm_num), mul_comm]
    norm_num
  have small : (0 : ℚ) < 2 ^ (k - 53) := by positivity
  by_cases high : value < 2 ^ (k + 1)
  · by_cases low : (2 : ℚ) ^ k ≤ value
    · rw [rounded_of_normal (by omega) low high, top, mul_le_mul_iff_left₀ (by positivity)]
      have reached : (2 ^ 53 : ℤ) ≤ roundHalfEven (value / 2 ^ (k - 52)) ↔
          ((2 ^ 53 : ℤ) : ℚ) - 1 / 2 ≤ value / 2 ^ (k - 52) :=
        even_le_roundHalfEven_iff (by norm_num)
      have cast : (2 : ℚ) ^ 53 ≤ ((roundHalfEven (value / 2 ^ (k - 52)) : ℤ) : ℚ) ↔
          (2 ^ 53 : ℤ) ≤ roundHalfEven (value / 2 ^ (k - 52)) := by
        exact_mod_cast Iff.rfl
      rw [cast, reached, le_div_iff₀ (by positivity), unit]
      push_cast
      constructor
      · intro le
        linarith
      · intro le
        linarith
    · have under : rounded value ≤ 2 ^ k := by
        have le := rounded_le_of_lt (k := k - 1) (by omega) nonneg (by simpa using lt_of_not_ge low)
        simpa using le
      have room : (2 : ℚ) ^ (k - 53) ≤ 2 ^ k := zpow_le_zpow_right₀ (by norm_num) (by omega)
      have pos : (0 : ℚ) < 2 ^ k := by positivity
      constructor
      · intro le
        linarith
      · intro le
        exact absurd (show (2 : ℚ) ^ k ≤ value by linarith) low
  · have reached := le_rounded_of_le (k := k + 1) (by omega) (le_of_not_gt high)
    exact iff_of_true reached (by linarith [le_of_not_gt high])

end Rounded

end Binary64
