import SendMeter.Proofs.Scalar.Rounding
import SendMeter.Scalar

open Float.Model Float.Model.UnpackedFloat

namespace SendMeter.Binary64

/-- The number that a float stands for, zero if it is not a number. -/
def toRat (x : Float) : ℚ :=
  value x.toModel.unpack

variable {m m' : Nat} {e e' : Int}

theorem Standard.lt_limit (h : Standard m e) (he : e ≤ 971) : (m : ℚ) * 2 ^ e < limit := by
  have hm : (m : ℚ) < 2 ^ 53 := by exact_mod_cast h.lt
  calc (m : ℚ) * 2 ^ e < 2 ^ 53 * 2 ^ e := by gcongr
    _ ≤ 2 ^ 53 * 2 ^ (971 : ℤ) := by gcongr; norm_num
    _ = limit := by
      rw [limit, show (1024 : ℤ) = (53 : ℕ) + 971 from rfl, zpow_add₀ two_ne_zero, zpow_natCast]

theorem Standard.lt_of_exponent_lt (h : Standard m e) (h' : Standard m' e') (he : e < e') :
    (m : ℚ) * 2 ^ e < m' * 2 ^ e' := by
  have hleast := h.least_le
  have hm : (m : ℚ) < 2 ^ 53 := by exact_mod_cast h.lt
  have hm' : (2 : ℚ) ^ 52 ≤ m' := by exact_mod_cast h'.full.resolve_right (by omega)
  calc (m : ℚ) * 2 ^ e < 2 ^ 53 * 2 ^ e := by gcongr
    _ = 2 ^ 52 * 2 ^ (e + 1) := by rw [zpow_add_one₀ two_ne_zero]; ring
    _ ≤ 2 ^ 52 * 2 ^ e' := by gcongr <;> [norm_num; omega]
    _ ≤ m' * 2 ^ e' := by gcongr

/-- Numbers in standard form are compared by their exponents first. -/
theorem Standard.compare_eq (h : Standard m e) (h' : Standard m' e') :
    (compare e e').then (compare m m') = compare ((m : ℚ) * 2 ^ e) (m' * 2 ^ e') := by
  obtain hlt | rfl | hgt := lt_trichotomy e e'
  · rw [compare_lt_iff_lt.mpr hlt, compare_lt_iff_lt.mpr (h.lt_of_exponent_lt h' hlt)]
    rfl
  · have hpow : (0 : ℚ) < 2 ^ e := by positivity
    rw [compare_eq_iff_eq.mpr rfl, Ordering.eq_then]
    obtain hlt | rfl | hgt := lt_trichotomy m m'
    · rw [compare_lt_iff_lt.mpr hlt, eq_comm, compare_lt_iff_lt]
      gcongr
    · rw [compare_eq_iff_eq.mpr rfl, eq_comm, compare_eq_iff_eq]
    · rw [compare_gt_iff_gt.mpr hgt, eq_comm, compare_gt_iff_gt]
      gcongr
  · rw [compare_gt_iff_gt.mpr hgt, compare_gt_iff_gt.mpr (h'.lt_of_exponent_lt h hgt)]
    rfl

theorem limit_pos : 0 < limit := by
  rw [limit]
  positivity

theorem two_pow_le_limit {k : ℕ} (hk : k ≤ 1024) : (2 : ℚ) ^ k ≤ limit := by
  rw [limit, ← zpow_natCast]
  gcongr
  · norm_num
  · omega

theorem two_lt_limit : 2 < limit := by
  have hlarge := two_pow_le_limit (show 2 ≤ 1024 by norm_num)
  linarith

/-- A float that is a number, in standard form and not too large. -/
def IsNumber : UnpackedFloat → Prop
  | .finite _ m e _ => Standard m e ∧ e ≤ 971
  | .notANumber => False
  | _ => True

theorem value_positive_bounds {h : 0 < m} (hx : IsNumber (.finite .positive m e h)) :
    0 < value (.finite .positive m e h) ∧ value (.finite .positive m e h) < limit := by
  have hlt := hx.1.lt_limit hx.2
  have hpos : (0 : ℚ) < m * 2 ^ e := by positivity
  exact ⟨hpos, hlt⟩

theorem value_negative (m : Nat) (e : Int) (h : 0 < m) :
    value (.finite .negative m e h) = -value (.finite .positive m e h) := by
  simp [value, Sign.apply]

private theorem compare_neg_neg (a b : ℚ) : compare (-a) (-b) = (compare a b).swap := by
  obtain hlt | rfl | hgt := lt_trichotomy a b
  · rw [compare_lt_iff_lt.mpr hlt, compare_gt_iff_gt.mpr (neg_lt_neg hlt)]
    rfl
  · rw [compare_eq_iff_eq.mpr rfl, compare_eq_iff_eq.mpr rfl]
    rfl
  · rw [compare_gt_iff_gt.mpr hgt, compare_lt_iff_lt.mpr (neg_lt_neg hgt)]
    rfl

/-- The order of the floats that are numbers is the order of what they stand for. -/
theorem compare_eq {x y : UnpackedFloat} (hx : IsNumber x) (hy : IsNumber y) :
    x.compare y = some (compare (value x) (value y)) := by
  have hlimit := limit_pos
  have htop : value (.infinity .positive) = limit := by simp [value, Sign.apply]
  have hbottom : value (.infinity .negative) = -limit := by simp [value, Sign.apply]
  have hzero (sign : Sign) : value (.zero sign) = 0 := rfl
  have hlt {a b : ℚ} (h : a < b) : some .lt = some (compare a b) := by rw [compare_lt_iff_lt.mpr h]
  have hgt {a b : ℚ} (h : b < a) : some .gt = some (compare a b) := by rw [compare_gt_iff_gt.mpr h]
  have heq {a b : ℚ} (h : a = b) : some .eq = some (compare a b) := by rw [compare_eq_iff_eq.mpr h]
  cases x with
  | notANumber => exact hx.elim
  | infinity sign =>
    cases y with
    | notANumber => exact hy.elim
    | infinity sign' =>
      cases sign <;> cases sign'
      · exact heq rfl
      · exact hlt (by linarith)
      · exact hgt (by linarith)
      · exact heq rfl
    | zero sign' =>
      cases sign
      · exact hlt (by linarith [hzero sign'])
      · exact hgt (by linarith [hzero sign'])
    | finite sign' m e h =>
      obtain ⟨hpos, hlow⟩ := value_positive_bounds (h := h) hy
      have hneg := value_negative m e h
      cases sign <;> cases sign'
      · exact hlt (by linarith)
      · exact hlt (by linarith)
      · exact hgt (by linarith)
      · exact hgt (by linarith)
  | zero sign =>
    cases y with
    | notANumber => exact hy.elim
    | infinity sign' =>
      cases sign'
      · exact hgt (by linarith [hzero sign])
      · exact hlt (by linarith [hzero sign])
    | zero sign' => exact heq rfl
    | finite sign' m e h =>
      obtain ⟨hpos, -⟩ := value_positive_bounds (h := h) hy
      have hneg := value_negative m e h
      cases sign'
      · exact hgt (by linarith [hzero sign])
      · exact hlt (by linarith [hzero sign])
  | finite sign m e h =>
    obtain ⟨hpos, hlow⟩ := value_positive_bounds (h := h) hx
    have hneg := value_negative m e h
    cases y with
    | notANumber => exact hy.elim
    | infinity sign' =>
      cases sign <;> cases sign'
      · exact hgt (by linarith)
      · exact hlt (by linarith)
      · exact hgt (by linarith)
      · exact hlt (by linarith)
    | zero sign' =>
      cases sign
      · exact hlt (by linarith [hzero sign'])
      · exact hgt (by linarith [hzero sign'])
    | finite sign' m' e' h' =>
      have hcompare : (compare e e').then (compare m m') =
          compare (value (.finite .positive m e h)) (value (.finite .positive m' e' h')) :=
        hx.1.compare_eq hy.1
      obtain ⟨hpos', -⟩ := value_positive_bounds (h := h') hy
      have hneg' := value_negative m' e' h'
      cases sign <;> cases sign'
      · rw [hneg, hneg', compare_neg_neg, ← hcompare]
        rfl
      · exact hlt (by linarith)
      · exact hgt (by linarith)
      · rw [← hcompare]
        rfl

variable {x y : Float}

theorem isNumber_unpack (hx : x.isNaN = false) : IsNumber x.toModel.unpack := by
  simp only [Float.isNaN, Float.Model.isNaN] at hx
  cases hx' : x.toModel.unpack with
  | notANumber => simp [hx', UnpackedFloat.isNaN] at hx
  | infinity sign => trivial
  | zero sign => trivial
  | finite sign m e h => exact standard_of_unpack_eq hx'

theorem lt_iff_unpack : x < y ↔ x.toModel.unpack.lt y.toModel.unpack = true :=
  decide_eq_true_iff

theorem le_iff_unpack : x ≤ y ↔ x.toModel.unpack.le y.toModel.unpack = true :=
  decide_eq_true_iff

theorem lt_iff (hx : x.isNaN = false) (hy : y.isNaN = false) : x < y ↔ toRat x < toRat y := by
  rw [lt_iff_unpack, UnpackedFloat.lt, compare_eq (isNumber_unpack hx) (isNumber_unpack hy),
    beq_iff_eq, Option.some_inj, compare_lt_iff_lt]
  rfl

theorem le_iff (hx : x.isNaN = false) (hy : y.isNaN = false) : x ≤ y ↔ toRat x ≤ toRat y := by
  rw [le_iff_unpack, UnpackedFloat.le, compare_eq (isNumber_unpack hx) (isNumber_unpack hy),
    Option.any_some, Ordering.isLE_iff_ne_gt, compare_gt_iff_gt, not_lt]
  rfl

theorem unpack_of_isNaN (h : x.isNaN = true) : x.toModel.unpack = .notANumber := by
  simp only [Float.isNaN, Float.Model.isNaN] at h
  cases hx : x.toModel.unpack <;> simp [hx, UnpackedFloat.isNaN] at h
  rfl

theorem toRat_of_isNaN (h : x.isNaN = true) : toRat x = 0 := by
  rw [toRat, unpack_of_isNaN h, value]

theorem not_lt_of_isNaN_left (h : x.isNaN = true) (y : Float) : ¬ x < y := by
  rw [lt_iff_unpack, unpack_of_isNaN h]
  exact Bool.false_ne_true

theorem compare_notANumber_right (x : UnpackedFloat) : x.compare .notANumber = none := by
  obtain (- | -) | - | - | (- | -) := x <;> rfl

theorem not_lt_of_isNaN_right (x : Float) (h : y.isNaN = true) : ¬ x < y := by
  rw [lt_iff_unpack, unpack_of_isNaN h, UnpackedFloat.lt, compare_notANumber_right]
  exact Bool.false_ne_true

theorem not_le_of_isNaN_left (h : x.isNaN = true) (y : Float) : ¬ x ≤ y := by
  rw [le_iff_unpack, unpack_of_isNaN h]
  exact Bool.false_ne_true

theorem not_le_of_isNaN_right (x : Float) (h : y.isNaN = true) : ¬ x ≤ y := by
  rw [le_iff_unpack, unpack_of_isNaN h, UnpackedFloat.le, compare_notANumber_right]
  exact Bool.false_ne_true

/-- Numbers are compared, and nothing else is. -/
theorem isNaN_of_lt (h : x < y) : x.isNaN = false ∧ y.isNaN = false := by
  constructor
  · by_contra hx
    exact not_lt_of_isNaN_left (Bool.eq_true_of_not_eq_false hx) y h
  · by_contra hy
    exact not_lt_of_isNaN_right x (Bool.eq_true_of_not_eq_false hy) h

theorem isNaN_of_le (h : x ≤ y) : x.isNaN = false ∧ y.isNaN = false := by
  constructor
  · by_contra hx
    exact not_le_of_isNaN_left (Bool.eq_true_of_not_eq_false hx) y h
  · by_contra hy
    exact not_le_of_isNaN_right x (Bool.eq_true_of_not_eq_false hy) h

protected theorem le_trans {z : Float} (h : x ≤ y) (h' : y ≤ z) : x ≤ z := by
  obtain ⟨hx, hy⟩ := isNaN_of_le h
  obtain ⟨-, hz⟩ := isNaN_of_le h'
  rw [le_iff hx hy] at h
  rw [le_iff hy hz] at h'
  exact (le_iff hx hz).mpr (h.trans h')

protected theorem le_of_lt (h : x < y) : x ≤ y := by
  obtain ⟨hx, hy⟩ := isNaN_of_lt h
  exact (le_iff hx hy).mpr ((lt_iff hx hy).mp h).le

/-- The order is total, as long as only numbers are compared. -/
protected theorem le_of_not_lt (hx : x.isNaN = false) (hy : y.isNaN = false) (h : ¬ y < x) :
    x ≤ y := by
  rw [lt_iff hy hx, not_lt] at h
  exact (le_iff hx hy).mpr h

theorem toRat_zero : toRat 0 = 0 := rfl

theorem isNaN_zero : (0 : Float).isNaN = false := rfl

theorem isFinite_zero : (0 : Float).isFinite = true := rfl

theorem zero_le_zero : (0 : Float) ≤ 0 :=
  (le_iff isNaN_zero isNaN_zero).mpr le_rfl

theorem beq_zero_iff (hx : x.isNaN = false) : (x == 0) = true ↔ toRat x = 0 := by
  have hbeq : (x == 0) = x.toModel.unpack.beq (0 : Float).toModel.unpack := rfl
  rw [hbeq, UnpackedFloat.beq, compare_eq (isNumber_unpack hx) (isNumber_unpack isNaN_zero),
    beq_iff_eq, Option.some_inj, compare_eq_iff_eq]
  rfl

theorem beq_zero_of_isNaN (h : x.isNaN = true) : (x == 0) = false := by
  have hbeq : (x == 0) = x.toModel.unpack.beq (.zero .positive) := rfl
  rw [hbeq, unpack_of_isNaN h]
  rfl

/-- Only the zeros are equal to zero. -/
theorem beq_zero_of_ne (h : toRat x ≠ 0) : (x == 0) = false := by
  cases hx : x.isNaN with
  | true => exact beq_zero_of_isNaN hx
  | false => exact Bool.eq_false_of_not_eq_true fun hzero => h ((beq_zero_iff hx).mp hzero)

theorem pos_of_not_le (hx : x.isNaN = false) (h : ¬ x ≤ 0) : 0 < toRat x := by
  rwa [le_iff hx isNaN_zero, toRat_zero, not_le] at h

theorem beq_zero_of_not_le (h : ¬ x ≤ 0) : (x == 0) = false := by
  cases hx : x.isNaN with
  | true => exact beq_zero_of_isNaN hx
  | false =>
    rw [le_iff hx isNaN_zero, toRat_zero] at h
    exact beq_zero_of_ne fun hzero => h hzero.le

theorem not_le_zero_of_pos (h : 0 < x) : ¬ x ≤ 0 := by
  obtain ⟨hzero, hx⟩ := isNaN_of_lt h
  rw [lt_iff hzero hx] at h
  rw [le_iff hx hzero]
  exact not_le.mpr h

theorem beq_zero_of_pos (h : 0 < x) : (x == 0) = false :=
  beq_zero_of_not_le (not_le_zero_of_pos h)

theorem isNaN_of_isFinite (h : x.isFinite = true) : x.isNaN = false := by
  simp only [Float.isFinite, Float.Model.isFinite] at h
  simp only [Float.isNaN, Float.Model.isNaN]
  cases hx : x.toModel.unpack <;> simp [hx, UnpackedFloat.isFinite] at h <;> rfl

theorem abs_value_lt_iff {z : UnpackedFloat} (hz : IsNumber z) :
    |value z| ≤ limit ∧ (z.isFinite = true ↔ |value z| < limit) := by
  have hlimit := limit_pos
  cases z with
  | notANumber => exact hz.elim
  | infinity sign =>
    have habs : |value (.infinity sign)| = limit := by
      cases sign <;> simp [value, Sign.apply, abs_of_pos hlimit]
    simp [UnpackedFloat.isFinite, habs]
  | zero sign => simp [UnpackedFloat.isFinite, value, hlimit, hlimit.le]
  | finite sign m e h =>
    obtain ⟨hpos, hlt⟩ := value_positive_bounds (h := h) hz
    have habs : |value (.finite sign m e h)| = value (.finite .positive m e h) := by
      cases sign with
      | positive => exact abs_of_pos hpos
      | negative => rw [value_negative, abs_neg, abs_of_pos hpos]
    simp [UnpackedFloat.isFinite, habs, hlt, hlt.le]

theorem isFinite_iff (hx : x.isNaN = false) : x.isFinite = true ↔ |toRat x| < limit :=
  (abs_value_lt_iff (isNumber_unpack hx)).2

/-- What is between finite floats is finite. -/
theorem isFinite_of_le_of_le {low high : Float} (hlow : low.isFinite = true)
    (hhigh : high.isFinite = true) (hle : low ≤ x) (hle' : x ≤ high) : x.isFinite = true := by
  obtain ⟨hlow_nan, hx⟩ := isNaN_of_le hle
  obtain ⟨-, hhigh_nan⟩ := isNaN_of_le hle'
  rw [le_iff hlow_nan hx] at hle
  rw [le_iff hx hhigh_nan] at hle'
  rw [isFinite_iff hlow_nan, abs_lt] at hlow
  rw [isFinite_iff hhigh_nan, abs_lt] at hhigh
  exact (isFinite_iff hx).mpr (abs_lt.mpr ⟨hlow.1.trans_le hle, hle'.trans_lt hhigh.2⟩)

theorem abs_toRat_le (x : Float) : |toRat x| ≤ limit := by
  cases hnan : x.isNaN with
  | true =>
    rw [toRat_of_isNaN hnan, abs_zero]
    exact limit_pos.le
  | false => exact (abs_value_lt_iff (isNumber_unpack hnan)).1

end SendMeter.Binary64
