import SendMeter.Proofs.Scalar.Floats

open Float.Model Float.Model.UnpackedFloat

namespace SendMeter.Binary64

/-- The first whole number that is rounded out of the range of the floats. -/
@[irreducible] def firstTooLarge : Nat := 2 ^ 1024 - 2 ^ 970

theorem limit_eq : limit = 2 ^ 53 * 2 ^ (971 : ℤ) := by
  rw [limit, show (1024 : ℤ) = (53 : ℕ) + 971 from rfl, zpow_add₀ two_ne_zero, zpow_natCast]

variable {x : ExtendedMantissa} {m n k : Nat}

private theorem roundBit_shiftRight_succ (x : ExtendedMantissa) (k : Nat) :
    (x >>> (k + 1)).roundBit = (x.mantissa / 2 ^ k % 2 != 0) := by
  have hsucc : (x >>> (k + 1)).roundBit = ((x >>> k).mantissa % 2 != 0) := rfl
  rw [hsucc, mantissa_shiftRight]

private theorem roundedMantissa_of_roundBit_eq_false (h : x.roundBit = false) :
    x.roundedMantissa = x.mantissa := by
  obtain ⟨m, roundBit, stickyBit⟩ := x
  cases h
  cases stickyBit <;> rfl

/-- At a half and above, an odd mantissa is rounded up. -/
theorem roundedMantissa_of_odd (h : x.roundBit = true) (hodd : x.mantissa % 2 = 1) :
    x.roundedMantissa = x.mantissa + 1 := by
  obtain ⟨m, roundBit, stickyBit⟩ := x
  cases h
  cases stickyBit with
  | true => rfl
  | false =>
    have heven : (ExtendedMantissa.mk m true false).roundedMantissa = m + m % 2 := rfl
    rw [heven, hodd]

/-- Of the mantissas with one bit more than fits, only the last one is rounded up to a power of
two. -/
theorem roundedMantissa_eq_two_pow_iff (hx : x.mantissa / 2 ^ k < 2 ^ 54) :
    (x >>> (k + 1)).roundedMantissa = 2 ^ 53 ↔ x.mantissa / 2 ^ k = 2 ^ 54 - 1 := by
  have hbit := roundBit_shiftRight_succ x k
  have hmantissa := mantissa_shiftRight x (k + 1)
  rw [Nat.pow_succ, ← Nat.div_div_eq_div_mul] at hmantissa
  generalize x >>> (k + 1) = y at hbit hmantissa ⊢
  obtain ⟨-, hle⟩ := roundedMantissa_bounds y
  constructor
  · intro hfull
    by_contra hne
    by_cases heven : x.mantissa / 2 ^ k % 2 = 0
    · have hdown := roundedMantissa_of_roundBit_eq_false (hbit.trans (by simp [heven]))
      omega
    · omega
  · intro hlast
    rw [hlast] at hbit hmantissa
    have hup := roundedMantissa_of_odd (hbit.trans (by decide)) (by omega)
    omega

/-- What a mantissa is rounded to: it is shifted so far that it has its 53 bits, and rounded there. -/
theorem exists_value_roundWithAccuracy (m : Nat) {e : Int} (he : -1074 < e) :
    ∃ k : Nat, m < 2 ^ (53 + k) ∧ (k = 0 ∨ 2 ^ (52 + k) ≤ m) ∧
      value (roundWithAccuracy .binary64 .positive m e .exact) =
        (ExtendedMantissa.ofMantissaAndAccuracy m .exact >>> k).roundedMantissa * 2 ^ (e + k) := by
  obtain ⟨k, hshift, hleast, hlt, hfill⟩ := exists_shiftToTargetExponent m e .exact
  have hmantissa := mantissa_shiftRight (.ofMantissaAndAccuracy m .exact) k
  rw [mantissa_ofMantissaAndAccuracy] at hmantissa
  refine ⟨k, hlt, ?_, ?_⟩
  · obtain hzero | hfull | hend := hfill
    · exact .inl hzero
    · exact .inr hfull
    · omega
  generalize ExtendedMantissa.ofMantissaAndAccuracy m .exact >>> k = x at hshift hmantissa ⊢
  have hlt' : x.mantissa < 2 ^ 53 := by
    rwa [hmantissa, Nat.div_lt_iff_lt_mul (Nat.two_pow_pos k), ← Nat.pow_add]
  obtain ⟨-, hhigh⟩ := roundedMantissa_bounds x
  obtain ⟨y, e', hshift', hvalue, -, -, -⟩ :=
    exists_shift_rounded (by omega : x.roundedMantissa ≤ 2 ^ 53) hleast
  rw [← hvalue]
  simp only [roundWithAccuracy, hshift, hshift']
  split
  next hzero => rw [hzero, Nat.cast_zero, zero_mul, value]
  next => rfl

/-- What is in standard form is packed as a finite float if it is within the range of the floats. -/
theorem isFinite_overflow_iff {z : UnpackedFloat} (hz : IsStandard z) (hfinite : z.isFinite = true) :
    (overflow z).isFinite = true ↔ |value z| < limit := by
  cases z with
  | notANumber => cases hfinite
  | infinity => cases hfinite
  | zero sign => exact iff_of_true rfl (by simpa [value] using limit_pos)
  | finite sign m e h =>
    have habs : |value (.finite sign m e h)| = m * 2 ^ e := by
      have hpos : (0 : ℚ) ≤ m * 2 ^ e := by positivity
      cases sign <;> simp [value, Sign.apply, abs_of_nonneg hpos]
    rw [habs, overflow]
    split
    next he => exact iff_of_false Bool.false_ne_true (not_lt.mpr (hz.limit_le he))
    next he => exact iff_of_true rfl (hz.lt_limit (not_lt.mp he))

theorem firstTooLarge_le_iff : firstTooLarge ≤ n ↔ 2 ^ 54 - 1 ≤ n / 2 ^ 970 := by
  unfold firstTooLarge
  -- The powers are too large to be evaluated.
  generalize hk : 970 = k
  have hend : 1024 = 54 + k := by omega
  rw [hend, Nat.pow_add, ← Nat.sub_one_mul, Nat.le_div_iff_mul_le (Nat.two_pow_pos k)]

/-- A whole number between two powers of two is rounded to 53 bits, the last of these mantissas
being the power of two above. -/
theorem exists_value_ofScientific {j : Nat} (hle : 2 ^ j ≤ n) (hlt : n < 2 ^ (j + 1)) :
    ∃ r : Nat, value (UnpackedFloat.ofScientific .binary64 n 0) = r * 2 ^ ((j : ℤ) - 52) ∧
      2 ^ 52 ≤ r ∧ r ≤ 2 ^ 53 ∧ (r = 2 ^ 53 ↔ n * 2 ^ 53 / 2 ^ j = 2 ^ 54 - 1) := by
  have hn : n ≠ 0 := (Nat.two_pow_pos j |>.trans_le hle).ne'
  obtain ⟨k, hlt', hfull, hvalue⟩ :=
    exists_value_roundWithAccuracy (n * 2 ^ 53) (show -1074 < (-53 : Int) by decide)
  rw [Nat.pow_add, Nat.mul_comm, Nat.mul_lt_mul_left (by decide)] at hlt'
  have hk : k = j + 1 := by
    refine le_antisymm ?_ ?_
    · by_contra hk
      have hle' := hfull.resolve_left (by omega)
      rw [show 52 + k = 53 + (k - 1) by omega, Nat.pow_add, Nat.mul_comm,
        Nat.mul_le_mul_right_iff (by decide)] at hle'
      exact absurd (hle'.trans_lt hlt) ((Nat.pow_le_pow_iff_right (by decide)).mpr (by omega)).not_gt
    · exact (Nat.pow_lt_pow_iff_right (by decide)).mp (hle.trans_lt hlt')
  subst hk
  have hwide : n * 2 ^ 53 / 2 ^ j < 2 ^ 54 := by
    refine Nat.div_lt_of_lt_mul ?_
    calc n * 2 ^ 53 < 2 ^ (j + 1) * 2 ^ 53 := Nat.mul_lt_mul_of_pos_right hlt (Nat.two_pow_pos 53)
      _ = 2 ^ j * 2 ^ 54 := by rw [← Nat.pow_add, ← Nat.pow_add, Nat.add_assoc]
  have hfilled : 2 ^ 53 ≤ n * 2 ^ 53 / 2 ^ j := by
    rw [Nat.le_div_iff_mul_le (Nat.two_pow_pos j), Nat.mul_comm]
    exact Nat.mul_le_mul_right _ hle
  have hlast := roundedMantissa_eq_two_pow_iff
    (x := .ofMantissaAndAccuracy (n * 2 ^ 53) .exact) (k := j)
  have hbounds := roundedMantissa_bounds
    (ExtendedMantissa.ofMantissaAndAccuracy (n * 2 ^ 53) .exact >>> (j + 1))
  rw [mantissa_shiftRight, Nat.pow_succ 2 j, ← Nat.div_div_eq_div_mul] at hbounds
  rw [mantissa_ofMantissaAndAccuracy] at hlast hbounds
  refine ⟨_, ?_, ?_, ?_, hlast hwide⟩
  · rw [ofScientific_eq hn, hvalue]
    congr 2
    push_cast
    ring
  · omega
  · omega

/-- A whole number with 1024 bits is rounded out of the range only to the power of two above. -/
theorem limit_le_value_ofScientific_iff (hn : n ≠ 0) :
    limit ≤ value (UnpackedFloat.ofScientific .binary64 n 0) ↔ firstTooLarge ≤ n := by
  have hle := Nat.log2_self_le hn
  have hlt := Nat.lt_log2_self (n := n)
  obtain ⟨r, hvalue, hlow, hhigh, hlast⟩ := exists_value_ofScientific hle hlt
  have hlow' : (2 : ℚ) ^ 52 ≤ r := by exact_mod_cast hlow
  have hhigh' : (r : ℚ) ≤ 2 ^ 53 := by exact_mod_cast hhigh
  rw [hvalue, firstTooLarge_le_iff]
  generalize n.log2 = j at *
  generalize hk : 970 = k
  obtain hsmall | rfl | hlarge := lt_trichotomy j (k + 53)
  · refine iff_of_false (not_le.mpr ?_) (not_le.mpr ?_)
    · calc (r : ℚ) * 2 ^ ((j : ℤ) - 52) ≤ 2 ^ 53 * 2 ^ (970 : ℤ) := by
            gcongr
            · norm_num
            · omega
        _ < limit := by
            rw [limit_eq]
            gcongr <;> norm_num
    · have hfits : n < 2 ^ k * 2 ^ 53 := by
        rw [← Nat.pow_add]
        exact hlt.trans_le (Nat.pow_le_pow_right Nat.two_pos hsmall)
      have hdiv := Nat.div_lt_of_lt_mul hfits
      omega
  · have hfits : n < 2 ^ k * 2 ^ 54 := by rwa [← Nat.pow_add]
    have hdiv := Nat.div_lt_of_lt_mul hfits
    rw [Nat.pow_add, Nat.mul_div_mul_right _ _ (Nat.two_pow_pos 53)] at hlast
    rw [show ((k + 53 : ℕ) : ℤ) - 52 = 971 by omega, limit_eq,
      mul_le_mul_iff_left₀ (by positivity)]
    have hcast : (2 : ℚ) ^ 53 ≤ r ↔ 2 ^ 53 ≤ r := by exact_mod_cast Iff.rfl
    rw [hcast]
    generalize n / 2 ^ k = bits at hlast hdiv ⊢
    omega
  · refine iff_of_true ?_ ?_
    · calc limit = 2 ^ 52 * 2 ^ (972 : ℤ) := by
            rw [limit_eq, show (972 : ℤ) = 971 + 1 from rfl, zpow_add_one₀ two_ne_zero]
            ring
        _ ≤ r * 2 ^ ((j : ℤ) - 52) := by
            gcongr
            · norm_num
            · omega
    · rw [Nat.le_div_iff_mul_le (Nat.two_pow_pos k)]
      calc (2 ^ 54 - 1) * 2 ^ k ≤ 2 ^ 54 * 2 ^ k := Nat.mul_le_mul_right _ (Nat.sub_le _ 1)
        _ = 2 ^ (54 + k) := (Nat.pow_add ..).symm
        _ ≤ 2 ^ j := Nat.pow_le_pow_right Nat.two_pos (by omega)
        _ ≤ n := hle

/-- A whole number is read as a finite float, unless it is rounded out of the range. -/
theorem isFinite_ofInt_iff (n : Nat) : (Float.ofInt n).isFinite = true ↔ n < firstTooLarge := by
  by_cases hsmall : n < 2 ^ 53
  · refine iff_of_true ((roundsTo_ofInt n).isFinite_natCast hsmall.le).1 ?_
    have hle := Nat.div_le_self n (2 ^ 970)
    rw [← not_le, firstTooLarge_le_iff]
    generalize n / 2 ^ 970 = bits at hle ⊢
    omega
  · have hn : n ≠ 0 := by omega
    obtain ⟨hstandard, hfinite, -⟩ := rounds_ofScientific hn
    have hpos : 0 ≤ value (UnpackedFloat.ofScientific .binary64 n 0) := by
      obtain ⟨r, hvalue, -⟩ := exists_value_ofScientific (Nat.log2_self_le hn) Nat.lt_log2_self
      rw [hvalue]
      positivity
    rw [Float.isFinite, Float.Model.isFinite, unpack_ofInt hsmall,
      isFinite_overflow_iff hstandard hfinite, abs_of_nonneg hpos, ← not_le,
      limit_le_value_ofScientific_iff hn, not_le]

end SendMeter.Binary64
