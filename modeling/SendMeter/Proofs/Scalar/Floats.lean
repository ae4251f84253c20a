import SendMeter.Proofs.Scalar.Arithmetic

namespace SendMeter

namespace Binary64

theorem divide_float (a b : Float) :
    Scalar.divide a b = if b == 0 then .error .divisionByZero else .ok (a / b) := rfl

theorem ofInt_float (n : Int) : (Scalar.ofInt n : Except ArithmeticError Float) =
    if (Float.ofInt n).isFinite then .ok (Float.ofInt n) else .error .integerTooLarge := rfl

theorem divide_of_beq_zero (a : Float) {b : Float} (hb : (b == 0) = false) :
    Scalar.divide a b = .ok (a / b) := by
  rw [divide_float, hb]
  rfl

theorem divide_of_eq_zero (a : Float) {b : Float} (hnan : b.isNaN = false) (hb : toRat b = 0) :
    Scalar.divide a b = .error .divisionByZero := by
  rw [divide_float, (beq_zero_iff hnan).mpr hb]
  rfl

theorem divide_eq_ok {a b q : Float} (h : Scalar.divide a b = .ok q) :
    (b == 0) = false ∧ q = a / b := by
  rw [divide_float] at h
  split at h
  · cases h
  next hne =>
    cases h
    exact ⟨Bool.eq_false_of_not_eq_true hne, rfl⟩

/-- A sum of two numbers that are not negative can be divided by, unless both of them are zero. -/
theorem divide_add_cases (a : Float) {x y : Float} (hx : x.isNaN = false) (hy : y.isNaN = false)
    (hx' : 0 ≤ toRat x) (hy' : 0 ≤ toRat y) :
    ((0 < toRat x ∨ 0 < toRat y) ∧ ∃ q, Scalar.divide a (x + y) = .ok q) ∨
      (toRat x = 0 ∧ toRat y = 0 ∧ Scalar.divide a (x + y) = .error .divisionByZero) := by
  obtain ⟨hx_le, hy_le⟩ := le_toRat_add hx hy hx' hy'
  by_cases hpos : 0 < toRat x ∨ 0 < toRat y
  · have hsum : 0 < toRat (x + y) := by
      obtain hpos | hpos := hpos
      · exact hpos.trans_le hx_le
      · exact hpos.trans_le hy_le
    exact .inl ⟨hpos, _, divide_of_beq_zero _ (beq_zero_of_ne hsum.ne')⟩
  · rw [not_or, not_lt, not_lt] at hpos
    have hx_zero := le_antisymm hpos.1 hx'
    have hy_zero := le_antisymm hpos.2 hy'
    have hzero : |(0 : ℚ)| < limit := by
      rw [abs_zero]
      exact limit_pos
    have hnear := roundsTo_add ((isFinite_iff hx).mpr (hx_zero ▸ hzero))
      ((isFinite_iff hy).mpr (hy_zero ▸ hzero))
    rw [hx_zero, hy_zero, add_zero] at hnear
    exact .inr ⟨hx_zero, hy_zero,
      divide_of_eq_zero _ hnear.isNaN_eq (hnear.toRat_eq representable_zero hzero.le)⟩

theorem ofInt_eq_ok {n : Int} {x : Float} (h : Scalar.ofInt n = .ok x) :
    x.isFinite = true ∧ x = Float.ofInt n := by
  rw [ofInt_float] at h
  split at h
  next hfinite =>
    cases h
    exact ⟨hfinite, rfl⟩
  · cases h

theorem ofCount_of_isFinite {count : Nat} (hfinite : (Float.ofInt count).isFinite = true) :
    (Scalar.ofCount count : Except ArithmeticError Float) = .ok (Float.ofInt count) := by
  rw [Scalar.ofCount, ofInt_float, if_pos hfinite]

theorem le_toRat_ofInt {k n : Nat} (hk : k ≤ 2 ^ 53) (hkn : k ≤ n) :
    (k : ℚ) ≤ toRat (Float.ofInt n) := by
  have hkn' : (k : ℚ) ≤ n := by exact_mod_cast hkn
  have hmin := (roundsTo_ofInt n).min_le_toRat (representable_natCast hk) (Nat.cast_nonneg k) hkn'
  rwa [min_eq_left (natCast_lt_limit hk).le] at hmin

/-- A count that is well within the range of the floats is read as a finite float, and not as
zero. -/
theorem isFinite_ofInt {count k : Nat} (hpos : 0 < count) (hlt : count < 2 ^ k) (hk : k < 1024) :
    (Float.ofInt count).isFinite = true ∧ 1 ≤ toRat (Float.ofInt count) := by
  have hnear := roundsTo_ofInt count
  have hlarge : (count : ℚ) ≤ 2 ^ (k : ℤ) := by
    rw [zpow_natCast]
    exact_mod_cast hlt.le
  have hrange : (2 : ℚ) ^ (k : ℤ) < limit := by
    rw [limit]
    exact zpow_lt_zpow_right₀ one_lt_two (by exact_mod_cast hk)
  have hlow : 1 ≤ toRat (Float.ofInt count) := by
    exact_mod_cast le_toRat_ofInt (k := 1) (by norm_num) hpos
  have hhigh := hnear.toRat_le (representable_two_pow (by omega)) (by positivity) hlarge
  refine ⟨?_, hlow⟩
  rw [isFinite_iff hnear.isNaN_eq, abs_of_nonneg (zero_le_one.trans hlow)]
  exact hhigh.trans_lt hrange

theorem toRat_one : toRat Scalar.one = 1 := by
  have hunpack : (Scalar.one : Float).toModel.unpack =
      .finite .positive (2 ^ 52) (-52) (by decide) := rfl
  rw [toRat, hunpack, value]
  norm_num [Float.Model.UnpackedFloat.Sign.apply]

theorem toRat_two : toRat Scalar.two = 2 := by
  have hunpack : (Scalar.two : Float).toModel.unpack =
      .finite .positive (2 ^ 52) (-51) (by decide) := rfl
  rw [toRat, hunpack, value]
  norm_num [Float.Model.UnpackedFloat.Sign.apply]

end Binary64

namespace Scalar

open Binary64

variable {a b : Float}

theorem maximum_cases (a b : Float) :
    (¬ a < b ∧ maximum a b = a) ∨ (a < b ∧ maximum a b = b) := by
  unfold maximum
  split
  next h => exact .inr ⟨h, rfl⟩
  next h => exact .inl ⟨h, rfl⟩

theorem minimum_cases (a b : Float) :
    (¬ b < a ∧ minimum a b = a) ∨ (b < a ∧ minimum a b = b) := by
  unfold minimum
  split
  next h => exact .inr ⟨h, rfl⟩
  next h => exact .inl ⟨h, rfl⟩

theorem toRat_maximum (ha : a.isNaN = false) (hb : b.isNaN = false) :
    toRat (maximum a b) = max (toRat a) (toRat b) := by
  obtain ⟨hle, heq⟩ | ⟨hlt, heq⟩ := maximum_cases a b
  · rw [lt_iff ha hb, not_lt] at hle
    rw [heq, max_eq_left hle]
  · rw [lt_iff ha hb] at hlt
    rw [heq, max_eq_right hlt.le]

theorem toRat_minimum (ha : a.isNaN = false) (hb : b.isNaN = false) :
    toRat (minimum a b) = min (toRat a) (toRat b) := by
  obtain ⟨hle, heq⟩ | ⟨hlt, heq⟩ := minimum_cases a b
  · rw [lt_iff hb ha, not_lt] at hle
    rw [heq, min_eq_left hle]
  · rw [lt_iff hb ha] at hlt
    rw [heq, min_eq_right hlt.le]

theorem isNaN_maximum (ha : a.isNaN = false) (hb : b.isNaN = false) :
    (maximum a b).isNaN = false := by
  obtain ⟨-, heq⟩ | ⟨-, heq⟩ := maximum_cases a b
  · rwa [heq]
  · rwa [heq]

theorem isNaN_minimum (ha : a.isNaN = false) (hb : b.isNaN = false) :
    (minimum a b).isNaN = false := by
  obtain ⟨-, heq⟩ | ⟨-, heq⟩ := minimum_cases a b
  · rwa [heq]
  · rwa [heq]

/-- The maximum of zero and anything, also of what is not a number, is not negative. -/
theorem zero_le_maximum (x : Float) : 0 ≤ maximum (zero : Float) x := by
  obtain ⟨-, heq⟩ | ⟨hlt, heq⟩ := maximum_cases (zero : Float) x
  · rw [heq]
    exact zero_le_zero
  · have hlt' : (0 : Float) < x := hlt
    rw [heq, le_iff isNaN_zero (isNaN_of_lt hlt').2]
    exact ((lt_iff isNaN_zero (isNaN_of_lt hlt').2).mp hlt').le

end Scalar

end SendMeter
