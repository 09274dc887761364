import Mathlib.Data.Int.Log
import Mathlib.Data.Rat.Floor
import Mathlib.Tactic.FieldSimp
import Mathlib.Tactic.Linarith
import Mathlib.Tactic.NormNum
import Mathlib.Tactic.Positivity

/-! Rounding to the nearest, halves to even: to a whole number, and to 53 significant bits as in a `double`. The limits of
its exponent are left out. -/

namespace Balancer.Foundation

/-- Round half to even. -/
def roundEven (value : ℚ) : Int :=
  let floor := ⌊value⌋
  if value - floor < 1 / 2 then floor
  else if 1 / 2 < value - floor then floor + 1
  else if floor % 2 = 0 then floor else floor + 1

section Whole
variable {value : ℚ}

theorem roundEven_cases (value : ℚ) : roundEven value = ⌊value⌋ ∧ value - ⌊value⌋ ≤ 1 / 2 ∨
    roundEven value = ⌊value⌋ + 1 ∧ 1 / 2 ≤ value - ⌊value⌋ := by
  unfold roundEven
  dsimp only
  split
  case isTrue low => exact Or.inl ⟨rfl, low.le⟩
  case isFalse high =>
    split
    case isTrue above => exact Or.inr ⟨rfl, above.le⟩
    case isFalse below =>
      split
      · exact Or.inl ⟨rfl, not_lt.mp below⟩
      · exact Or.inr ⟨rfl, not_lt.mp high⟩

theorem roundEven_error (value : ℚ) : |(roundEven value : ℚ) - value| ≤ 1 / 2 := by
  have below := Int.floor_le value
  have above := Int.lt_floor_add_one value
  rw [abs_le]
  rcases roundEven_cases value with ⟨same, near⟩ | ⟨same, near⟩
  · rw [same]
    exact ⟨by linarith, by linarith⟩
  · rw [same]
    push_cast
    exact ⟨by linarith, by linarith⟩

theorem roundEven_nonneg (nonneg : 0 ≤ value) : 0 ≤ roundEven value := by
  have floor := Int.floor_nonneg.mpr nonneg
  rcases roundEven_cases value with ⟨same, _⟩ | ⟨same, _⟩ <;> omega

theorem roundEven_intCast (whole : ℤ) : roundEven (whole : ℚ) = whole := by
  unfold roundEven
  dsimp only
  rw [Int.floor_intCast, sub_self, if_pos (by norm_num)]

end Whole

/-- What two neighbouring values of a `double` differ by, from this one on. -/
def spacing (value : ℚ) : ℚ := 2 ^ (Int.log 2 |value| - 52)

def nearestDouble (value : ℚ) : ℚ := roundEven (value / spacing value) * spacing value

section Doubles
variable {value : ℚ}

theorem spacing_pos (value : ℚ) : 0 < spacing value := zpow_pos (by norm_num) _

theorem spacing_le (nonzero : value ≠ 0) : spacing value ≤ |value| / 2 ^ 52 := by
  have logs : ((2 : ℕ) : ℚ) ^ Int.log 2 |value| ≤ |value| := Int.zpow_log_le_self (by norm_num) (abs_pos.mpr nonzero)
  have split : spacing value = (2 : ℚ) ^ Int.log 2 |value| / 2 ^ 52 := by
    unfold spacing
    rw [zpow_sub₀ (by norm_num)]
    norm_cast
  rw [split]
  gcongr
  exact_mod_cast logs

/-- The relative error is at most half a unit of the last place. -/
theorem nearestDouble_error (value : ℚ) : |nearestDouble value - value| ≤ |value| / 2 ^ 53 := by
  by_cases zero : value = 0
  · subst zero
    have none : nearestDouble 0 = 0 := by
      unfold nearestDouble
      rw [zero_div, ← Int.cast_zero, roundEven_intCast, Int.cast_zero, zero_mul]
    simp [none]
  · have positive := spacing_pos value
    have scaled : nearestDouble value - value =
        ((roundEven (value / spacing value) : ℚ) - value / spacing value) * spacing value := by
      unfold nearestDouble
      rw [sub_mul, div_mul_cancel₀ _ positive.ne']
    calc
      |nearestDouble value - value| = |(roundEven (value / spacing value) : ℚ) - value / spacing value| * spacing value := by
        rw [scaled, abs_mul, abs_of_pos positive]
      _ ≤ 1 / 2 * (|value| / 2 ^ 52) := by
        gcongr
        · exact roundEven_error _
        · exact spacing_le zero
      _ = |value| / 2 ^ 53 := by ring

theorem nearestDouble_nonneg (nonneg : 0 ≤ value) : 0 ≤ nearestDouble value := by
  have positive := spacing_pos value
  have whole : (0 : ℚ) ≤ roundEven (value / spacing value) := by
    exact_mod_cast roundEven_nonneg (div_nonneg nonneg positive.le)
  exact mul_nonneg whole positive.le

/-- A tenth and two tenths are a little more than three tenths. -/
example : nearestDouble (nearestDouble (1 / 10) + nearestDouble (2 / 10)) = 1351079888211149 / 4503599627370496 := by
  decide +kernel

end Doubles

end Balancer.Foundation
