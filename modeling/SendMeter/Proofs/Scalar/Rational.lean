import Mathlib.Algebra.Order.Field.Basic
import Mathlib.Algebra.Order.Ring.Rat
import Mathlib.Tactic.NormNum
import SendMeter.Scalar

namespace SendMeter.Scalar

@[simp] theorem zero_rat : (Scalar.zero : Rat) = 0 := rfl

@[simp] theorem one_rat : (Scalar.one : Rat) = 1 := rfl

@[simp] theorem two_rat : (Scalar.two : Rat) = 2 := by
  change (1 : Rat) + 1 = 2
  norm_num

@[simp] theorem maximum_rat (a b : Rat) : Scalar.maximum a b = max a b := by
  unfold Scalar.maximum
  split
  next h => exact (max_eq_right h.le).symm
  next h => exact (max_eq_left (not_lt.mp h)).symm

@[simp] theorem minimum_rat (a b : Rat) : Scalar.minimum a b = min a b := by
  unfold Scalar.minimum
  split
  next h => exact (min_eq_right h.le).symm
  next h => exact (min_eq_left (not_lt.mp h)).symm

theorem divide_rat {a b : Rat} (hb : b ≠ 0) : Scalar.divide a b = .ok (a / b) :=
  if_neg hb

/-- A common factor of dividend and divisor cancels. -/
theorem divide_mul_left {k : Rat} (hk : k ≠ 0) (a b : Rat) :
    Scalar.divide (k * a) (k * b) = (Scalar.divide a b : Except ArithmeticError Rat) := by
  by_cases hb : b = 0
  · rw [hb, mul_zero]
    rfl
  · rw [divide_rat hb, divide_rat (mul_ne_zero hk hb), mul_div_mul_left a b hk]

theorem divide_mul (k a b : Rat) :
    Scalar.divide (k * a) b = (Scalar.divide a b : Except ArithmeticError Rat).map (k * ·) := by
  by_cases hb : b = 0
  · rw [hb]
    rfl
  · rw [divide_rat hb, divide_rat hb, mul_div_assoc]
    rfl

@[simp] theorem ofInt_rat (n : Int) : (Scalar.ofInt n : Except ArithmeticError Rat) = .ok n := rfl

@[simp] theorem ofCount_rat (n : Nat) :
    (Scalar.ofCount n : Except ArithmeticError Rat) = .ok n := rfl

end SendMeter.Scalar
