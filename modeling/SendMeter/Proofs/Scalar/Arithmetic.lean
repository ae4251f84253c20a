import SendMeter.Proofs.Scalar.Binary64

open Float.Model Float.Model.UnpackedFloat

namespace SendMeter.Binary64

variable {m : Nat} {e : Int} {x y : Float}

theorem representable_toRat (x : Float) : Representable (toRat x) := by
  unfold toRat
  have happly (sign : Sign) (m : Nat) : |sign.apply m| = m := by
    cases sign <;> simp [Sign.apply]
  cases hx : x.toModel.unpack with
  | notANumber => exact ⟨0, 0, by norm_num, by norm_num, by simp [value]⟩
  | zero sign => exact ⟨0, 0, by norm_num, by norm_num, by simp [value]⟩
  | infinity sign =>
    exact ⟨sign.apply 1, 1024, by cases sign <;> decide, by norm_num, by rw [value, limit]⟩
  | finite sign m e h =>
    obtain ⟨⟨hlt, hleast, -⟩, -⟩ := standard_of_unpack_eq hx
    refine ⟨sign.apply m, e, ?_, hleast, rfl⟩
    rw [happly]
    exact_mod_cast hlt.le

/-- The least positive number that a float can be. -/
@[irreducible] def least : ℚ := 2 ^ (-1074 : ℤ)

theorem least_pos : 0 < least := by
  rw [least]
  positivity

/-- The inverse of the largest number is not too small for a float. -/
theorem least_mul_limit_le_one : least * limit ≤ 1 := by
  rw [least, limit, ← zpow_add₀ two_ne_zero]
  exact zpow_le_one_of_nonpos₀ one_le_two (by norm_num)

theorem representable_zero : Representable 0 :=
  ⟨0, 0, by norm_num, by norm_num, by norm_num⟩

theorem representable_two_pow {k : ℤ} (hk : -1074 ≤ k) : Representable (2 ^ k) :=
  ⟨1, k, by norm_num, hk, by norm_num⟩

theorem representable_natCast {n : Nat} (hn : n ≤ 2 ^ 53) : Representable n :=
  ⟨n, 0, by rw [Nat.abs_cast]; exact_mod_cast hn, by norm_num, by simp⟩

theorem natCast_lt_limit {n : Nat} (hn : n ≤ 2 ^ 53) : (n : ℚ) < limit := by
  have hn' : (n : ℚ) ≤ 2 ^ 53 := by exact_mod_cast hn
  have hlarge := two_pow_le_limit (show 54 ≤ 1024 by norm_num)
  linarith

theorem representable_least : Representable least := by
  rw [least]
  exact representable_two_pow le_rfl

theorem representable_limit : Representable limit := by
  rw [limit]
  exact representable_two_pow (by norm_num)

theorem Representable.mul_two_pow {v : ℚ} (h : Representable v) (k : ℕ) :
    Representable (v * 2 ^ k) := by
  obtain ⟨n, e, hn, he, rfl⟩ := h
  refine ⟨n, e + k, hn, by omega, ?_⟩
  rw [zpow_add₀ two_ne_zero, zpow_natCast, mul_assoc]

/-- All representable numbers are multiples of the least positive one. -/
theorem Representable.exists_multiple {v : ℚ} (h : Representable v) : ∃ k : ℤ, v = k * least := by
  obtain ⟨n, e, hn, he, rfl⟩ := h
  refine ⟨n * 2 ^ (e + 1074).toNat, ?_⟩
  have hexponent : (2 : ℚ) ^ e = 2 ^ (e + 1074).toNat * least := by
    rw [least, ← zpow_natCast, ← zpow_add₀ two_ne_zero]
    congr 1
    omega
  rw [hexponent]
  push_cast
  ring

/-- Representable numbers that differ are at least that far apart. -/
theorem Representable.least_le_sub {v w : ℚ} (hv : Representable v) (hw : Representable w)
    (hlt : v < w) : least ≤ w - v := by
  obtain ⟨k, rfl⟩ := hv.exists_multiple
  obtain ⟨l, rfl⟩ := hw.exists_multiple
  have hkl : (k : ℚ) < l := lt_of_mul_lt_mul_right hlt least_pos.le
  have hkl' : k + 1 ≤ l := by exact_mod_cast hkl
  have hkl'' : (k : ℚ) + 1 ≤ l := by exact_mod_cast hkl'
  calc least = 1 * least := (one_mul _).symm
    _ ≤ (l - k) * least := mul_le_mul_of_nonneg_right (by linarith) least_pos.le
    _ = l * least - k * least := sub_mul ..

theorem least_le_toRat (hx : 0 < toRat x) : least ≤ toRat x := by
  have hle := representable_zero.least_le_sub (representable_toRat x) hx
  rwa [sub_zero] at hle

/-- A float that a number is rounded to: no representable number within the range of the floats lies
between the two. -/
structure RoundsTo (q : ℚ) (x : Float) : Prop where
  isNaN_eq : x.isNaN = false
  le_of_le : ∀ v, Representable v → |v| ≤ limit → v ≤ q → v ≤ toRat x
  ge_of_ge : ∀ v, Representable v → |v| ≤ limit → q ≤ v → toRat x ≤ v

/-- What is taken for infinity is not within the range of the floats. -/
theorem Standard.limit_le (h : Standard m e) (he : 971 < e) : limit ≤ m * 2 ^ e := by
  have hm : (2 : ℚ) ^ 52 ≤ m := by exact_mod_cast h.full.resolve_right (by omega)
  calc limit = 2 ^ 52 * 2 ^ (972 : ℤ) := by
        rw [limit, show (1024 : ℤ) = (52 : ℕ) + 972 from rfl, zpow_add₀ two_ne_zero, zpow_natCast]
    _ ≤ 2 ^ 52 * 2 ^ e := by gcongr <;> [norm_num; omega]
    _ ≤ m * 2 ^ e := by gcongr

theorem isNaN_overflow {z : UnpackedFloat} (hz : z.isFinite = true) :
    (overflow z).isNaN = false := by
  cases z with
  | finite sign m e h =>
    simp only [overflow]
    split <;> rfl
  | zero => rfl
  | notANumber => cases hz
  | infinity => cases hz

/-- A result that is too large is rounded to the end of the range. -/
theorem Rounds.roundsTo {q : ℚ} {z : UnpackedFloat} (h : Rounds q z)
    (hx : x.toModel.unpack = overflow z) : RoundsTo q x := by
  obtain ⟨hstandard, hfinite, hle, hge⟩ := h
  have hnan : x.isNaN = false := by
    simp only [Float.isNaN, Float.Model.isNaN, hx]
    exact isNaN_overflow hfinite
  have hvalue : toRat x = value z ∨ (toRat x = limit ∧ limit ≤ value z) ∨
      (toRat x = -limit ∧ value z ≤ -limit) := by
    rw [toRat, hx]
    cases z with
    | finite sign m e h =>
      by_cases he : 971 < e
      · right
        have hlimit : limit ≤ value (.finite .positive m e h) := hstandard.limit_le he
        have hneg := value_negative m e h
        rw [overflow, if_pos he]
        cases sign with
        | positive => exact .inl ⟨by simp [value, Sign.apply], hlimit⟩
        | negative => exact .inr ⟨by simp [value, Sign.apply], by linarith⟩
      · left
        rw [overflow, if_neg he]
    | zero => exact .inl rfl
    | notANumber => cases hfinite
    | infinity => cases hfinite
  refine ⟨hnan, fun v hv hrange hvq => ?_, fun v hv hrange hqv => ?_⟩
  · obtain ⟨hlow, hhigh⟩ := abs_le.mp hrange
    have hvz := hle v hv hvq
    obtain heq | ⟨heq, -⟩ | ⟨heq, hz⟩ := hvalue
    · rwa [heq]
    · rwa [heq]
    · linarith
  · obtain ⟨hlow, hhigh⟩ := abs_le.mp hrange
    have hzv := hge v hv hqv
    obtain heq | ⟨heq, hz⟩ | ⟨heq, -⟩ := hvalue
    · rwa [heq]
    · linarith
    · rwa [heq]

theorem unpack_add (x y : Float) : (x + y).toModel.unpack =
    overflow (UnpackedFloat.add .binary64 x.toModel.unpack y.toModel.unpack) :=
  unpack_pack (isStandard_add (isStandard_unpack _) (isStandard_unpack _))

theorem unpack_sub (x y : Float) : (x - y).toModel.unpack =
    overflow (UnpackedFloat.sub .binary64 x.toModel.unpack y.toModel.unpack) :=
  unpack_pack (isStandard_sub (isStandard_unpack _) (isStandard_unpack _))

theorem unpack_mul (x y : Float) : (x * y).toModel.unpack =
    overflow (UnpackedFloat.mul .binary64 x.toModel.unpack y.toModel.unpack) :=
  unpack_pack (isStandard_mul (isStandard_unpack _) (isStandard_unpack _))

theorem unpack_div (x y : Float) : (x / y).toModel.unpack =
    overflow (UnpackedFloat.div .binary64 x.toModel.unpack y.toModel.unpack) :=
  unpack_pack (isStandard_div _ _)

theorem roundsTo_add (hx : x.isFinite = true) (hy : y.isFinite = true) :
    RoundsTo (toRat x + toRat y) (x + y) :=
  (rounds_add (isStandard_unpack _) (isStandard_unpack _) hx hy).roundsTo (unpack_add x y)

theorem roundsTo_sub (hx : x.isFinite = true) (hy : y.isFinite = true) :
    RoundsTo (toRat x - toRat y) (x - y) :=
  (rounds_sub (isStandard_unpack _) (isStandard_unpack _) hx hy).roundsTo (unpack_sub x y)

theorem roundsTo_mul (hx : x.isFinite = true) (hy : y.isFinite = true) :
    RoundsTo (toRat x * toRat y) (x * y) :=
  (rounds_mul (isStandard_unpack _) (isStandard_unpack _) hx hy).roundsTo (unpack_mul x y)

theorem roundsTo_div (hx : x.isFinite = true) (hy : y.isFinite = true) (hne : toRat y ≠ 0) :
    RoundsTo (toRat x / toRat y) (x / y) :=
  (rounds_div hx hy hne).roundsTo (unpack_div x y)

namespace RoundsTo

variable {q v : ℚ}

/-- A number that needs no rounding is not rounded. -/
theorem toRat_eq (h : RoundsTo q x) (hq : Representable q) (hrange : |q| ≤ limit) : toRat x = q :=
  le_antisymm (h.ge_of_ge q hq hrange le_rfl) (h.le_of_le q hq hrange le_rfl)

/-- A count that fits into a mantissa is not rounded. -/
theorem isFinite_natCast {n : Nat} (h : RoundsTo n x) (hn : n ≤ 2 ^ 53) :
    x.isFinite = true ∧ toRat x = n := by
  have hlimit : |(n : ℚ)| < limit := by
    rw [Nat.abs_cast]
    exact natCast_lt_limit hn
  have hexact := h.toRat_eq (representable_natCast hn) hlimit.le
  refine ⟨?_, hexact⟩
  rwa [isFinite_iff h.isNaN_eq, hexact]

theorem toRat_le_toRat (h : RoundsTo q x) (hq : q ≤ toRat y) : toRat x ≤ toRat y :=
  h.ge_of_ge _ (representable_toRat y) (abs_toRat_le y) hq

theorem toRat_le_toRat' (h : RoundsTo q x) (hq : toRat y ≤ q) : toRat y ≤ toRat x :=
  h.le_of_le _ (representable_toRat y) (abs_toRat_le y) hq

theorem nonneg (h : RoundsTo q x) (hq : 0 ≤ q) : 0 ≤ toRat x :=
  h.le_of_le 0 representable_zero (by rw [abs_zero]; exact limit_pos.le) hq

theorem nonpos (h : RoundsTo q x) (hq : q ≤ 0) : toRat x ≤ 0 :=
  h.ge_of_ge 0 representable_zero (by rw [abs_zero]; exact limit_pos.le) hq

/-- An upper bound survives rounding, also one beyond the range of the floats. -/
theorem toRat_le (h : RoundsTo q x) (hv : Representable v) (hnonneg : 0 ≤ v) (hq : q ≤ v) :
    toRat x ≤ v := by
  by_cases hrange : v ≤ limit
  · exact h.ge_of_ge v hv (by rwa [abs_of_nonneg hnonneg]) hq
  · have hle := (le_abs_self _).trans (abs_toRat_le x)
    linarith

/-- A lower bound survives rounding, as far as it is within the range of the floats. -/
theorem min_le_toRat (h : RoundsTo q x) (hv : Representable v) (hnonneg : 0 ≤ v) (hq : v ≤ q) :
    min v limit ≤ toRat x := by
  by_cases hrange : v ≤ limit
  · rw [min_eq_left hrange]
    exact h.le_of_le v hv (by rwa [abs_of_nonneg hnonneg]) hq
  · rw [min_eq_right (by linarith)]
    refine h.le_of_le limit representable_limit (by rw [abs_of_pos limit_pos]) ?_
    linarith

theorem neg_toRat_le (h : RoundsTo q x) (hq : -toRat y ≤ q) : -toRat y ≤ toRat x :=
  h.le_of_le _ (representable_toRat y).neg (by rw [abs_neg]; exact abs_toRat_le y) hq

/-- What is no larger than a finite float is rounded to a finite one. -/
theorem isFinite (h : RoundsTo q x) (hy : y.isFinite = true) (hlow : -toRat y ≤ q)
    (hhigh : q ≤ toRat y) : x.isFinite = true := by
  have hy' := (isFinite_iff (isNaN_of_isFinite hy)).mp hy
  have hle : |toRat x| ≤ |toRat y| :=
    (abs_le.mpr ⟨h.neg_toRat_le hlow, h.toRat_le_toRat hhigh⟩).trans (le_abs_self _)
  exact (isFinite_iff h.isNaN_eq).mpr (hle.trans_lt hy')

theorem pos (h : RoundsTo q x) (hq : least ≤ q) : 0 < toRat x :=
  (lt_min least_pos limit_pos).trans_le (h.min_le_toRat representable_least least_pos.le hq)

end RoundsTo

private theorem toRat_powerOfTen : toRat Float.exactlyRepresentablePowersOfTen[0] = 1 := by
  have hunpack : Float.exactlyRepresentablePowersOfTen[0].toModel.unpack =
      .finite .positive (2 ^ 52) (-52) (by decide) := rfl
  rw [toRat, hunpack, value]
  norm_num [Sign.apply]

theorem ofScientific_eq {n : Nat} (hn : n ≠ 0) : UnpackedFloat.ofScientific .binary64 n 0 =
    roundWithAccuracy .binary64 .positive (n * 2 ^ 53) (-53) .exact := by
  have hlarge : ¬(0 : Int) > 2 ^ Format.binary64.exponentBits := by decide
  have hsmall : ¬(0 : Int) < -((2 ^ Format.binary64.exponentBits : Int) + n.log2) := by
    have hexponents : (2 ^ Format.binary64.exponentBits : Int) = 2048 := rfl
    omega
  have hmantissa : n <<< 53 * 10 ^ (0 : Int).toNat = n * 2 ^ 53 := by
    rw [Int.toNat_zero, Nat.pow_zero, Nat.mul_one, Nat.shiftLeft_eq]
  rw [UnpackedFloat.ofScientific, dif_neg hn, if_neg hlarge, if_neg hsmall,
    if_pos (Int.le_refl 0), ← hmantissa]
  rfl

/-- A count that is too large for a mantissa is rounded. -/
theorem rounds_ofScientific {n : Nat} (hn : n ≠ 0) :
    Rounds n (UnpackedFloat.ofScientific .binary64 n 0) := by
  have hfull : 2 ^ 52 ≤ n * 2 ^ 53 ∨ (-53 : Int) ≤ -1074 := .inl (by omega)
  have hrounds := rounds_roundWithAccuracy (keeps_exact (n * 2 ^ 53)) hfull .positive
  have hvalue : ((Sign.apply .positive 1 : ℤ) : ℚ) * (((n * 2 ^ 53 : ℕ) : ℚ) * 2 ^ (-53 : ℤ)) =
      n := by
    rw [Nat.cast_mul, mul_assoc]
    norm_num [Sign.apply]
  rw [ofScientific_eq hn]
  rwa [hvalue] at hrounds

theorem toRat_toFloat {n : Nat} (hn : n < 2 ^ 53) :
    n.toUInt64.toFloat.isFinite = true ∧ toRat n.toUInt64.toFloat = n := by
  have hcount : n.toUInt64.toNat = n := by
    rw [Nat.toUInt64, UInt64.toNat_ofNat']
    omega
  have hread : n.toUInt64.toFloat.toModel.unpack =
      (pack (UnpackedFloat.normalize .binary64 n.toUInt64.toNat 0 .positive)).unpack := rfl
  have hrounds := rounds_normalize n 0 .positive
  rw [hcount, unpack_pack hrounds.isStandard] at hread
  rw [zpow_zero, mul_one] at hrounds
  exact (hrounds.roundsTo hread).isFinite_natCast hn.le

/-- A count that is not below `2 ^ 53` is rounded as the numerals are. -/
theorem unpack_ofInt {n : Nat} (h : ¬ n < 2 ^ 53) : (Float.ofInt n).toModel.unpack =
    overflow (UnpackedFloat.ofScientific .binary64 n 0) := by
  have hslow : (Float.ofInt n).toModel.unpack =
      (pack (UnpackedFloat.ofScientific .binary64 n 0)).unpack := by
    rw [show Float.ofInt n = Float.ofScientific n false 0 from rfl, Float.ofScientific,
      dif_neg fun hsmall => h hsmall.1]
    rfl
  rw [hslow, unpack_pack (rounds_ofScientific (by omega : n ≠ 0)).isStandard]

/-- A count is read as a float that it rounds to. -/
theorem roundsTo_ofInt (n : Nat) : RoundsTo n (Float.ofInt n) := by
  have hofInt : Float.ofInt n = Float.ofScientific n false 0 := rfl
  by_cases hsmall : n < 2 ^ 53
  · have hfast : Float.ofInt n =
        n.toUInt64.toFloat * Float.exactlyRepresentablePowersOfTen[0] := by
      rw [hofInt, Float.ofScientific, dif_pos ⟨hsmall, by decide⟩]
      rfl
    obtain ⟨hfinite, hexact⟩ := toRat_toFloat hsmall
    have hproduct := roundsTo_mul hfinite (y := Float.exactlyRepresentablePowersOfTen[0]) rfl
    rwa [hexact, toRat_powerOfTen, mul_one, ← hfast] at hproduct
  · exact (rounds_ofScientific (by omega : n ≠ 0)).roundsTo (unpack_ofInt hsmall)

theorem isNaN_of_unpack (h : x.toModel.unpack = .notANumber) : x.isNaN = true := by
  simp [Float.isNaN, Float.Model.isNaN, h, UnpackedFloat.isNaN]

theorem toRat_of_unpack_top (h : x.toModel.unpack = .infinity .positive) : toRat x = limit := by
  rw [toRat, h]
  simp [value, Sign.apply]

theorem toRat_of_unpack_bottom (h : x.toModel.unpack = .infinity .negative) :
    toRat x = -limit := by
  rw [toRat, h]
  simp [value, Sign.apply]

theorem not_top_le (h : x.isFinite = true) : ¬ 1 / 0 ≤ x := by
  have hx := isNaN_of_isFinite h
  have htop : toRat (1 / 0) = limit := toRat_of_unpack_top rfl
  rw [isFinite_iff hx, abs_lt] at h
  rw [le_iff rfl hx, htop, not_le]
  exact h.2

theorem not_le_bottom (h : x.isFinite = true) : ¬ x ≤ -1 / 0 := by
  have hx := isNaN_of_isFinite h
  have hbottom : toRat (-1 / 0) = -limit := toRat_of_unpack_bottom rfl
  rw [isFinite_iff hx, abs_lt] at h
  rw [le_iff hx rfl, hbottom, not_le]
  exact h.1

theorem isNaN_of_toRat_ne_zero (h : toRat x ≠ 0) : x.isNaN = false := by
  cases hx : x.isNaN with
  | true => exact absurd (toRat_of_isNaN hx) h
  | false => rfl

theorem toRat_cases (hx : x.isNaN = false) :
    x.isFinite = true ∨ toRat x = limit ∨ toRat x = -limit := by
  have hnumber := isNumber_unpack hx
  unfold toRat
  simp only [Float.isFinite, Float.Model.isFinite]
  cases hx' : x.toModel.unpack with
  | notANumber =>
    rw [hx'] at hnumber
    exact hnumber.elim
  | infinity sign => cases sign <;> simp [value, Sign.apply]
  | zero sign => exact .inl rfl
  | finite sign m e h => exact .inl rfl

/-- Only the infinities stand at the ends of the range. -/
theorem unpack_of_abs_eq (hx : |toRat x| = limit) : ∃ sign, x.toModel.unpack = .infinity sign := by
  have hlimit := limit_pos
  have hnan : x.isNaN = false := isNaN_of_toRat_ne_zero (abs_pos.mp (by linarith))
  have hfinite : ¬ x.isFinite = true := by
    rw [isFinite_iff hnan]
    exact hx.not_lt
  simp only [Float.isFinite, Float.Model.isFinite, Float.isNaN, Float.Model.isNaN] at hfinite hnan
  cases hx' : x.toModel.unpack <;> simp [hx', UnpackedFloat.isFinite, UnpackedFloat.isNaN] at *

theorem unpack_of_eq_limit (hx : toRat x = limit) : x.toModel.unpack = .infinity .positive := by
  have hlimit := limit_pos
  obtain ⟨sign, hsign⟩ := unpack_of_abs_eq (x := x) (by rw [hx, abs_of_pos hlimit])
  cases sign with
  | positive => exact hsign
  | negative => linarith [toRat_of_unpack_bottom hsign]

theorem unpack_of_eq_neg_limit (hx : toRat x = -limit) :
    x.toModel.unpack = .infinity .negative := by
  have hlimit := limit_pos
  obtain ⟨sign, hsign⟩ := unpack_of_abs_eq (x := x) (by rw [hx, abs_neg, abs_of_pos hlimit])
  cases sign with
  | negative => exact hsign
  | positive => linarith [toRat_of_unpack_top hsign]

theorem isNaN_add_left (hx : x.isNaN = true) (y : Float) : (x + y).isNaN = true := by
  refine isNaN_of_unpack ?_
  rw [unpack_add, unpack_of_isNaN hx]
  rfl

theorem isNaN_add_right (x : Float) (hy : y.isNaN = true) : (x + y).isNaN = true := by
  refine isNaN_of_unpack ?_
  rw [unpack_add, unpack_of_isNaN hy]
  cases x.toModel.unpack <;> rfl

theorem isNaN_sub_left (hx : x.isNaN = true) (y : Float) : (x - y).isNaN = true := by
  refine isNaN_of_unpack ?_
  rw [unpack_sub, unpack_of_isNaN hx]
  rfl

theorem isNaN_mul_right (x : Float) (hy : y.isNaN = true) : (x * y).isNaN = true := by
  refine isNaN_of_unpack ?_
  rw [unpack_mul, unpack_of_isNaN hy]
  cases x.toModel.unpack <;> rfl

/-- Two infinities of different signs have no sum. -/
theorem isNaN_add_of_top_of_bottom (hx : toRat x = limit) (hy : toRat y = -limit) :
    (x + y).isNaN = true := by
  refine isNaN_of_unpack ?_
  rw [unpack_add, unpack_of_eq_limit hx, unpack_of_eq_neg_limit hy]
  rfl

theorem isNaN_sub_of_top (hx : toRat x = limit) (hy : toRat y = limit) : (x - y).isNaN = true := by
  refine isNaN_of_unpack ?_
  rw [unpack_sub, unpack_of_eq_limit hx, unpack_of_eq_limit hy]
  rfl

theorem unpack_of_isFinite (hx : x.isFinite = true) :
    (∃ sign, x.toModel.unpack = .zero sign) ∨
      ∃ sign m e h, x.toModel.unpack = .finite sign m e h := by
  simp only [Float.isFinite, Float.Model.isFinite] at hx
  cases hx' : x.toModel.unpack with
  | notANumber => simp [hx', UnpackedFloat.isFinite] at hx
  | infinity => simp [hx', UnpackedFloat.isFinite] at hx
  | zero sign => exact .inl ⟨sign, rfl⟩
  | finite sign m e h => exact .inr ⟨sign, m, e, h, rfl⟩

/-- An infinity outweighs everything finite. -/
theorem toRat_add_of_top (hx : x.isFinite = true) (hy : toRat y = limit) :
    toRat (x + y) = limit := by
  refine toRat_of_unpack_top ?_
  rw [unpack_add, unpack_of_eq_limit hy]
  obtain ⟨sign, hx⟩ | ⟨sign, m, e, h, hx⟩ := unpack_of_isFinite hx
  · rw [hx]
    rfl
  · rw [hx]
    rfl

theorem toRat_add_of_bottom (hx : x.isFinite = true) (hy : toRat y = -limit) :
    toRat (x + y) = -limit := by
  refine toRat_of_unpack_bottom ?_
  rw [unpack_add, unpack_of_eq_neg_limit hy]
  obtain ⟨sign, hx⟩ | ⟨sign, m, e, h, hx⟩ := unpack_of_isFinite hx
  · rw [hx]
    rfl
  · rw [hx]
    rfl

theorem toRat_sub_of_top (hx : toRat x = limit) (hy : y.isFinite = true) :
    toRat (x - y) = limit := by
  refine toRat_of_unpack_top ?_
  rw [unpack_sub, unpack_of_eq_limit hx]
  obtain ⟨sign, hy⟩ | ⟨sign, m, e, h, hy⟩ := unpack_of_isFinite hy
  · rw [hy]
    rfl
  · rw [hy]
    rfl

theorem toRat_sub_top (hx : x.isFinite = true) (hy : toRat y = limit) :
    toRat (x - y) = -limit := by
  refine toRat_of_unpack_bottom ?_
  rw [unpack_sub, unpack_of_eq_limit hy]
  obtain ⟨sign, hx⟩ | ⟨sign, m, e, h, hx⟩ := unpack_of_isFinite hx
  · rw [hx]
    rfl
  · rw [hx]
    rfl

theorem exists_unpack_of_pos (hx : x.isFinite = true) (hpos : 0 < toRat x) :
    ∃ m e h, x.toModel.unpack = .finite .positive m e h := by
  unfold toRat at hpos
  obtain ⟨sign, hx⟩ | ⟨sign, m, e, h, hx⟩ := unpack_of_isFinite hx
  · simp [hx, value] at hpos
  · cases sign with
    | positive => exact ⟨m, e, h, hx⟩
    | negative =>
      have hnonneg : (0 : ℚ) ≤ m * 2 ^ e := by positivity
      rw [hx, value_negative] at hpos
      exact absurd hpos (not_lt.mpr (neg_nonpos.mpr hnonneg))

theorem toRat_mul_of_top (hx : x.isFinite = true) (hpos : 0 < toRat x) (hy : toRat y = limit) :
    toRat (x * y) = limit := by
  obtain ⟨m, e, h, hx'⟩ := exists_unpack_of_pos hx hpos
  refine toRat_of_unpack_top ?_
  rw [unpack_mul, unpack_of_eq_limit hy, hx']
  rfl

theorem toRat_mul_of_bottom (hx : x.isFinite = true) (hpos : 0 < toRat x)
    (hy : toRat y = -limit) : toRat (x * y) = -limit := by
  obtain ⟨m, e, h, hx'⟩ := exists_unpack_of_pos hx hpos
  refine toRat_of_unpack_bottom ?_
  rw [unpack_mul, unpack_of_eq_neg_limit hy, hx']
  rfl

theorem isNaN_add (hx : x.isFinite = true) (hy : y.isNaN = false) : (x + y).isNaN = false := by
  have hlimit := limit_pos
  obtain hfinite | htop | hbottom := toRat_cases hy
  · exact (roundsTo_add hx hfinite).isNaN_eq
  · exact isNaN_of_toRat_ne_zero (by rw [toRat_add_of_top hx htop]; linarith)
  · exact isNaN_of_toRat_ne_zero (by rw [toRat_add_of_bottom hx hbottom]; linarith)

theorem isNaN_mul (hx : x.isFinite = true) (hpos : 0 < toRat x) (hy : y.isNaN = false) :
    (x * y).isNaN = false := by
  have hlimit := limit_pos
  obtain hfinite | htop | hbottom := toRat_cases hy
  · exact (roundsTo_mul hx hfinite).isNaN_eq
  · exact isNaN_of_toRat_ne_zero (by rw [toRat_mul_of_top hx hpos htop]; linarith)
  · exact isNaN_of_toRat_ne_zero (by rw [toRat_mul_of_bottom hx hpos hbottom]; linarith)

/-- What is finite vanishes in comparison to an infinity. -/
theorem div_of_top (hx : x.isFinite = true) (hy : toRat y = limit) :
    (x / y).isFinite = true ∧ toRat (x / y) = 0 := by
  have hzero : ∃ sign, (x / y).toModel.unpack = .zero sign := by
    rw [unpack_div, unpack_of_eq_limit hy]
    obtain ⟨sign, hx⟩ | ⟨sign, m, e, h, hx⟩ := unpack_of_isFinite hx
    · rw [hx]
      exact ⟨_, rfl⟩
    · rw [hx]
      exact ⟨_, rfl⟩
  obtain ⟨sign, hsign⟩ := hzero
  simp [Float.isFinite, Float.Model.isFinite, toRat, hsign, UnpackedFloat.isFinite, value]

theorem toRat_top_div (hx : toRat x = limit) (hy : y.isFinite = true) (hpos : 0 < toRat y) :
    toRat (x / y) = limit := by
  obtain ⟨m, e, h, hy'⟩ := exists_unpack_of_pos hy hpos
  refine toRat_of_unpack_top ?_
  rw [unpack_div, unpack_of_eq_limit hx, hy']
  rfl

theorem isNaN_top_div_top (hx : toRat x = limit) (hy : toRat y = limit) :
    (x / y).isNaN = true := by
  refine isNaN_of_unpack ?_
  rw [unpack_div, unpack_of_eq_limit hx, unpack_of_eq_limit hy]
  rfl

theorem isNaN_div_right (x : Float) (hy : y.isNaN = true) : (x / y).isNaN = true := by
  refine isNaN_of_unpack ?_
  rw [unpack_div, unpack_of_isNaN hy]
  cases x.toModel.unpack <;> rfl

theorem toRat_top_add (hx : toRat x = limit) (hy : y.isNaN = false) (hy' : 0 ≤ toRat y) :
    toRat (x + y) = limit := by
  have hlimit := limit_pos
  refine toRat_of_unpack_top ?_
  rw [unpack_add, unpack_of_eq_limit hx]
  obtain hfinite | htop | hbottom := toRat_cases hy
  · obtain ⟨sign, hy⟩ | ⟨sign, m, e, h, hy⟩ := unpack_of_isFinite hfinite
    · rw [hy]
      rfl
    · rw [hy]
      rfl
  · rw [unpack_of_eq_limit htop]
    rfl
  · linarith

/-- A sum of numbers that are not negative is no smaller than each of them. -/
theorem le_toRat_add (hx : x.isNaN = false) (hy : y.isNaN = false) (hx' : 0 ≤ toRat x)
    (hy' : 0 ≤ toRat y) : toRat x ≤ toRat (x + y) ∧ toRat y ≤ toRat (x + y) := by
  have hlimit := limit_pos
  have hrange (z : Float) : toRat z ≤ limit := (le_abs_self _).trans (abs_toRat_le z)
  obtain hfinite | htop | hbottom := toRat_cases hx
  · obtain hfinite' | htop' | hbottom' := toRat_cases hy
    · have hnear := roundsTo_add hfinite hfinite'
      exact ⟨hnear.toRat_le_toRat' (by linarith), hnear.toRat_le_toRat' (by linarith)⟩
    · rw [toRat_add_of_top hfinite htop']
      exact ⟨hrange x, hrange y⟩
    · linarith
  · rw [toRat_top_add htop hy hy']
    exact ⟨hrange x, hrange y⟩
  · linarith

/-- The difference of two floats has the sign that the exact one has. -/
theorem pos_toRat_sub_iff (hx : x.isFinite = true) (hy : y.isFinite = true) :
    0 < toRat (x - y) ↔ y < x := by
  have hnear := roundsTo_sub hx hy
  rw [lt_iff (isNaN_of_isFinite hy) (isNaN_of_isFinite hx)]
  constructor
  · intro hpos
    by_contra hle
    exact absurd (hnear.nonpos (by linarith)) (not_le.mpr hpos)
  · intro hlt
    exact hnear.pos ((representable_toRat y).least_le_sub (representable_toRat x) hlt)

theorem isInf_iff : x.isInf = true ↔ |toRat x| = limit := by
  constructor
  · intro h
    simp only [Float.isInf, Float.Model.isInf] at h
    have hlimit := limit_pos
    cases hx : x.toModel.unpack <;> simp [hx, UnpackedFloat.isInf] at h
    next sign => cases sign <;> simp [toRat, hx, value, Sign.apply, abs_of_pos hlimit]
  · intro h
    obtain ⟨sign, hsign⟩ := unpack_of_abs_eq h
    simp [Float.isInf, Float.Model.isInf, hsign, UnpackedFloat.isInf]

/-- A number that is not negative has a root, which is a number. -/
theorem isNaN_sqrt (h : 0 ≤ x) : x.sqrt.isNaN = false := by
  have hnan := (isNaN_of_le h).2
  rw [le_iff isNaN_zero hnan, toRat_zero] at h
  have hsqrt : x.sqrt.isNaN =
      (pack (UnpackedFloat.sqrt .binary64 x.toModel.unpack)).unpack.isNaN := rfl
  rw [hsqrt]
  have hnumber := isNumber_unpack hnan
  have hlimit := limit_pos
  unfold toRat at h
  cases hx : x.toModel.unpack with
  | notANumber =>
    rw [hx] at hnumber
    exact hnumber.elim
  | infinity sign =>
    cases sign with
    | positive => rfl
    | negative =>
      simp only [hx, value, Sign.apply] at h
      push_cast at h
      linarith
  | zero sign => cases sign <;> rfl
  | finite sign m e hm =>
    cases sign with
    | positive =>
      obtain ⟨hstandard, hfinite⟩ := sqrt_positive e hm
      rw [unpack_pack hstandard]
      exact isNaN_overflow hfinite
    | negative =>
      rw [hx] at hnumber h
      obtain ⟨hpos, -⟩ := value_positive_bounds (h := hm) hnumber
      rw [value_negative] at h
      linarith

end SendMeter.Binary64
