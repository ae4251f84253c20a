import SendMeter.Proofs.Scalar.Encoding

open Float.Model Float.Model.UnpackedFloat

namespace SendMeter.Binary64

/-- Where the range of the floats ends. -/
@[irreducible] def limit : ℚ := 2 ^ (1024 : ℤ)

/-- The number that a float stands for, zero if it is not a number. The infinities stand where the
range of the floats ends. -/
def value : UnpackedFloat → ℚ
  | .infinity sign => (sign.apply 1 : ℤ) * limit
  | .notANumber => 0
  | .zero _ => 0
  | .finite sign m e _ => (sign.apply m : ℤ) * 2 ^ e

/-- A number that needs no rounding. The exponent may be as large as it likes. -/
def Representable (v : ℚ) : Prop :=
  ∃ n e : ℤ, |n| ≤ 2 ^ 53 ∧ -1074 ≤ e ∧ v = n * 2 ^ e

/-- A number and what it may be rounded to: no representable number lies between the two. -/
structure Rounded (q y : ℚ) : Prop where
  le_of_le : ∀ v, Representable v → v ≤ q → v ≤ y
  ge_of_ge : ∀ v, Representable v → q ≤ v → y ≤ v

theorem Representable.neg {v : ℚ} (h : Representable v) : Representable (-v) := by
  obtain ⟨n, e, hn, he, rfl⟩ := h
  exact ⟨-n, e, by rwa [abs_neg], he, by push_cast; ring⟩

theorem Rounded.neg {q y : ℚ} (h : Rounded q y) : Rounded (-q) (-y) where
  le_of_le v hv hle := by
    have hge := h.ge_of_ge (-v) hv.neg (by linarith)
    linarith
  ge_of_ge v hv hge := by
    have hle := h.le_of_le (-v) hv.neg (by linarith)
    linarith

/-- What is known of a number by its integer part and by whether there is anything behind it. -/
structure Keeps (x : ExtendedMantissa) (q : ℚ) : Prop where
  mantissa_le : x.mantissa ≤ q
  lt_succ : q < x.mantissa + 1
  nothing_behind : q = x.mantissa → x.roundBit = false ∧ x.stickyBit = false

theorem keeps_exact (m : Nat) : Keeps (.ofMantissaAndAccuracy m .exact) m where
  mantissa_le := le_refl _
  lt_succ := lt_add_one _
  nothing_behind _ := ⟨rfl, rfl⟩

theorem Keeps.shiftRightOne {x : ExtendedMantissa} {q : ℚ} (h : Keeps x q) :
    Keeps x.shiftRightOne (q / 2) := by
  have hdiv : (x.mantissa : ℚ) = 2 * (x.mantissa / 2 : ℕ) + (x.mantissa % 2 : ℕ) := by
    exact_mod_cast (Nat.div_add_mod x.mantissa 2).symm
  have hmod : ((x.mantissa % 2 : ℕ) : ℚ) ≤ 1 := by
    exact_mod_cast Nat.le_of_lt_succ (Nat.mod_lt _ Nat.two_pos)
  have hmod' : (0 : ℚ) ≤ (x.mantissa % 2 : ℕ) := Nat.cast_nonneg _
  have hle := h.mantissa_le
  have hlt := h.lt_succ
  refine ⟨?_, ?_, fun heq => ?_⟩
  · change ((x.mantissa / 2 : ℕ) : ℚ) ≤ q / 2
    linarith
  · change q / 2 < ((x.mantissa / 2 : ℕ) : ℚ) + 1
    linarith
  · change q / 2 = ((x.mantissa / 2 : ℕ) : ℚ) at heq
    have hzero : ((x.mantissa % 2 : ℕ) : ℚ) = 0 := by linarith
    obtain ⟨hround, hsticky⟩ := h.nothing_behind (by linarith)
    have heven : x.mantissa % 2 = 0 := by exact_mod_cast hzero
    simp [ExtendedMantissa.shiftRightOne, heven, hround, hsticky]

theorem Keeps.shiftRight {x : ExtendedMantissa} {q : ℚ} (h : Keeps x q) (k : Nat) :
    Keeps (x >>> k) (q / 2 ^ k) := by
  induction k with
  | zero => simpa [HShiftRight.hShiftRight, Nat.repeat] using h
  | succ k ih =>
    have hone := ih.shiftRightOne
    rwa [div_div, ← pow_succ] at hone

theorem mantissa_shiftRight (x : ExtendedMantissa) (k : Nat) :
    (x >>> k).mantissa = x.mantissa / 2 ^ k := by
  induction k with
  | zero => simp [HShiftRight.hShiftRight, Nat.repeat]
  | succ k ih =>
    have hsucc : (x >>> (k + 1)).mantissa = (x >>> k).mantissa / 2 := rfl
    rw [hsucc, ih, Nat.div_div_eq_div_mul, Nat.pow_succ]

theorem roundedMantissa_bounds (x : ExtendedMantissa) :
    x.mantissa ≤ x.roundedMantissa ∧ x.roundedMantissa ≤ x.mantissa + 1 := by
  obtain ⟨m, roundBit, stickyBit⟩ := x
  have hparity := Nat.mod_lt m Nat.two_pos
  cases roundBit <;> cases stickyBit <;>
    simp only [ExtendedMantissa.roundedMantissa, ExtendedMantissa.accuracy,
      Accuracy.roundToNearestEven] <;> omega

/-- An integer is rounded to itself. -/
theorem Keeps.roundedMantissa_eq {x : ExtendedMantissa} {q : ℚ} (h : Keeps x q)
    (heq : q = x.mantissa) : x.roundedMantissa = x.mantissa := by
  obtain ⟨m, roundBit, stickyBit⟩ := x
  obtain ⟨hround, hsticky⟩ := h.nothing_behind heq
  simp only at hround hsticky
  subst hround hsticky
  rfl

/-- Rounding to an integer never passes a representable number: if the integer part has all its
bits, the representable numbers around it are integers. -/
theorem Keeps.rounded {x : ExtendedMantissa} {q : ℚ} {e : ℤ} (h : Keeps x q)
    (hfull : 2 ^ 52 ≤ x.mantissa ∨ e = -1074) :
    Rounded (q * 2 ^ e) (x.roundedMantissa * 2 ^ e) := by
  obtain ⟨hle, hge⟩ := roundedMantissa_bounds x
  have hpow : (0 : ℚ) < 2 ^ e := by positivity
  have hle' : (x.mantissa : ℚ) ≤ x.roundedMantissa := by exact_mod_cast hle
  -- A representable number is an integer on this scale, or it is below all full mantissas.
  have hscale (v : ℚ) (hv : Representable v) :
      (∃ k : ℤ, v = k * 2 ^ e) ∨ v ≤ x.mantissa * 2 ^ e := by
    obtain ⟨n, f, hn, hf, rfl⟩ := hv
    by_cases hef : e ≤ f
    · refine .inl ⟨n * 2 ^ (f - e).toNat, ?_⟩
      have hexponent : (2 : ℚ) ^ f = 2 ^ (f - e).toNat * 2 ^ e := by
        rw [← zpow_natCast, ← zpow_add₀ two_ne_zero]
        congr 1
        omega
      rw [hexponent]
      push_cast
      ring
    · have hmantissa := hfull.resolve_right (by omega)
      have hmantissa' : (2 : ℚ) ^ 52 ≤ x.mantissa := by exact_mod_cast hmantissa
      have hn' : (n : ℚ) ≤ 2 ^ 53 := by exact_mod_cast (le_abs_self n).trans hn
      refine .inr ?_
      calc (n : ℚ) * 2 ^ f ≤ 2 ^ 53 * 2 ^ f := by gcongr
        _ = 2 ^ 52 * 2 ^ (f + 1) := by rw [zpow_add_one₀ two_ne_zero]; ring
        _ ≤ 2 ^ 52 * 2 ^ e := by gcongr <;> [norm_num; omega]
        _ ≤ x.mantissa * 2 ^ e := by gcongr
  refine ⟨fun v hv hvq => ?_, fun v hv hqv => ?_⟩
  · obtain ⟨k, rfl⟩ | hsmall := hscale v hv
    · have hk : (k : ℚ) < x.mantissa + 1 := by
        have hkq : (k : ℚ) ≤ q := le_of_mul_le_mul_right hvq hpow
        linarith [h.lt_succ]
      have hk' : k ≤ x.mantissa := by
        have : k < x.mantissa + 1 := by exact_mod_cast hk
        omega
      have hk'' : (k : ℚ) ≤ x.mantissa := by exact_mod_cast hk'
      gcongr
      linarith
    · refine hsmall.trans ?_
      gcongr
  · have hqk : x.mantissa * 2 ^ e ≤ q * 2 ^ e := by
      gcongr
      exact h.mantissa_le
    obtain ⟨k, rfl⟩ | hsmall := hscale v hv
    · have hk : q ≤ k := le_of_mul_le_mul_right hqv hpow
      have hk' : (x.mantissa : ℤ) ≤ k := by exact_mod_cast h.mantissa_le.trans hk
      obtain heq | hlt := eq_or_lt_of_le hk'
      · have hq : q = x.mantissa := by
          refine le_antisymm ?_ h.mantissa_le
          rw [← heq] at hk
          exact_mod_cast hk
        rw [h.roundedMantissa_eq hq, ← heq]
        exact le_refl _
      · gcongr
        have hbound : (x.roundedMantissa : ℤ) ≤ k := by omega
        exact_mod_cast hbound
    · have hq : q = x.mantissa := by
        refine le_antisymm (le_of_mul_le_mul_right ?_ hpow) h.mantissa_le
        linarith
      rw [h.roundedMantissa_eq hq, ← hq]
      exact hqv

@[simp] theorem mantissa_ofMantissaAndAccuracy (m : Nat) (accuracy : Accuracy) :
    (ExtendedMantissa.ofMantissaAndAccuracy m accuracy).mantissa = m := by
  obtain - | (- | - | -) := accuracy <;> rfl

/-- A shift to the target exponent goes so far that the mantissa fits, and no further than to fill
it, unless it has to reach the least exponent. -/
theorem exists_shiftToTargetExponent (m : Nat) (e : Int) (accuracy : Accuracy) :
    ∃ k : Nat, shiftToTargetExponent .binary64 m e accuracy =
        (ExtendedMantissa.ofMantissaAndAccuracy m accuracy >>> k, e + k) ∧
      -1074 ≤ e + k ∧ m < 2 ^ (53 + k) ∧
      (k = 0 ∨ 2 ^ (52 + k) ≤ m ∨ e + k = -1074) := by
  have htarget : Format.binary64.targetExponent (totalExponent m e) =
      max (m.log2 + 1 + e - 53) (-1074) := rfl
  refine ⟨_, rfl, ?_, ?_, ?_⟩
  · omega
  · have hlt := Nat.lt_log2_self (n := m)
    refine hlt.trans_le (Nat.pow_le_pow_right Nat.two_pos ?_)
    omega
  · by_cases hm : m = 0
    · subst hm
      rw [Nat.log2_zero] at htarget
      omega
    · have hle := Nat.log2_self_le hm
      by_cases hleast : (m.log2 : Int) + 1 + e - 53 ≤ -1074
      · omega
      · by_cases hzero : (Format.binary64.targetExponent (totalExponent m e) - e).toNat = 0
        · exact .inl hzero
        · right
          left
          refine (Nat.pow_le_pow_right Nat.two_pos ?_).trans hle
          omega

/-- A mantissa that was rounded up to a power of two is shifted once more, and keeps its value. -/
theorem exists_shift_rounded {r : Nat} {e : Int} (hr : r ≤ 2 ^ 53) (he : -1074 ≤ e) :
    ∃ (x : ExtendedMantissa) (e' : Int), shiftToTargetExponent .binary64 r e .exact = (x, e') ∧
      (x.mantissa : ℚ) * 2 ^ e' = r * 2 ^ e ∧ x.mantissa < 2 ^ 53 ∧ -1074 ≤ e' ∧
      (2 ^ 52 ≤ r ∨ e = -1074 → 2 ^ 52 ≤ x.mantissa ∨ e' = -1074) := by
  obtain ⟨k, hshift, hleast, hlt, hfill⟩ := exists_shiftToTargetExponent r e .exact
  have hmantissa := mantissa_shiftRight (.ofMantissaAndAccuracy r .exact) k
  rw [mantissa_ofMantissaAndAccuracy] at hmantissa
  have hk : k = 0 ∨ k = 1 ∧ r = 2 ^ 53 := by
    obtain hzero | hfull | hend := hfill
    · exact .inl hzero
    · have hle := (Nat.pow_le_pow_iff_right (by decide)).mp (hfull.trans hr)
      obtain rfl | rfl : k = 0 ∨ k = 1 := by omega
      · exact .inl rfl
      · exact .inr ⟨rfl, le_antisymm hr hfull⟩
    · left
      omega
  refine ⟨_, _, hshift, ?_⟩
  rw [hmantissa]
  obtain rfl | ⟨rfl, rfl⟩ := hk
  · simp only [Nat.pow_zero, Nat.div_one, Nat.cast_zero, Int.add_zero]
    exact ⟨trivial, by simpa using hlt, he, id⟩
  · refine ⟨?_, by decide, by omega, fun _ => .inl (by decide)⟩
    rw [Nat.cast_one, zpow_add_one₀ two_ne_zero]
    norm_num
    ring

/-- What rounding has to do with the exact result: the rounded number is in standard form, and it is
what the exact one may be rounded to. -/
structure Rounds (q : ℚ) (x : UnpackedFloat) : Prop where
  isStandard : IsStandard x
  isFinite : x.isFinite = true
  rounded : Rounded q (value x)

theorem rounds_roundWithAccuracy {m : Nat} {e : Int} {accuracy : Accuracy} {q : ℚ}
    (hq : Keeps (.ofMantissaAndAccuracy m accuracy) q) (hfull : 2 ^ 52 ≤ m ∨ e ≤ -1074)
    (sign : Sign) :
    Rounds ((sign.apply 1 : ℤ) * (q * 2 ^ e))
      (roundWithAccuracy .binary64 sign m e accuracy) := by
  obtain ⟨k, hshift, hleast, hlt, hfill⟩ := exists_shiftToTargetExponent m e accuracy
  have hmantissa := mantissa_shiftRight (.ofMantissaAndAccuracy m accuracy) k
  rw [mantissa_ofMantissaAndAccuracy] at hmantissa
  generalize hx : ExtendedMantissa.ofMantissaAndAccuracy m accuracy >>> k = x at hshift hmantissa
  have hfull' : 2 ^ 52 ≤ x.mantissa ∨ e + k = -1074 := by
    rw [hmantissa, Nat.le_div_iff_mul_le (Nat.two_pow_pos k), ← Nat.pow_add]
    obtain rfl | hle | hend := hfill
    · simp only [Nat.add_zero, Nat.cast_zero, Int.add_zero] at hleast ⊢
      omega
    · exact .inl hle
    · exact .inr hend
  have hlt' : x.mantissa < 2 ^ 53 := by
    rwa [hmantissa, Nat.div_lt_iff_lt_mul (Nat.two_pow_pos k), ← Nat.pow_add]
  have hrounded : Rounded (q * 2 ^ e) (x.roundedMantissa * 2 ^ (e + k)) := by
    have hkept := hq.shiftRight k
    rw [hx] at hkept
    have hscale : q / 2 ^ k * 2 ^ (e + k) = q * 2 ^ e := by
      rw [zpow_add₀ two_ne_zero, zpow_natCast]
      field_simp
    rw [← hscale]
    exact hkept.rounded hfull'
  obtain ⟨hlow, hhigh⟩ := roundedMantissa_bounds x
  obtain ⟨y, e', hshift', hvalue, hy, hleast', hfull''⟩ :=
    exists_shift_rounded (by omega : x.roundedMantissa ≤ 2 ^ 53) hleast
  rw [← hvalue] at hrounded
  have hsigned : Rounded ((sign.apply 1 : ℤ) * (q * 2 ^ e))
      ((sign.apply y.mantissa : ℤ) * 2 ^ e') := by
    cases sign with
    | positive => simpa [Sign.apply] using hrounded
    | negative => simpa [Sign.apply] using hrounded.neg
  simp only [roundWithAccuracy, hshift, hshift']
  split
  next hzero =>
    refine ⟨trivial, rfl, ?_⟩
    rw [hzero] at hsigned
    cases sign <;> simpa [Sign.apply, value] using hsigned
  next hpos =>
    refine ⟨⟨hy, hleast', hfull'' ?_⟩, rfl, hsigned⟩
    omega

theorem rounds_self {x : UnpackedFloat} (hx : IsStandard x) (hfinite : x.isFinite = true) :
    Rounds (value x) x :=
  ⟨hx, hfinite, fun _ _ => id, fun _ _ => id⟩

theorem apply_natCast (sign : Sign) (m : Nat) :
    ((sign.apply m : ℤ) : ℚ) = (sign.apply 1 : ℤ) * m := by
  cases sign <;> simp [Sign.apply]

/-- A mantissa is filled before it is rounded. -/
theorem rounds_round {m : Nat} (hm : m ≠ 0) (e : Int) (sign : Sign) :
    Rounds ((sign.apply m : ℤ) * 2 ^ e) (UnpackedFloat.round .binary64 sign m e) := by
  have htarget : Format.binary64.targetExponent (totalExponent m e) =
      max (m.log2 + 1 + e - 53) (-1074) := rfl
  simp only [UnpackedFloat.round, decreaseExponent]
  obtain ⟨k, hk⟩ : ∃ k, k = (e - Format.binary64.targetExponent (totalExponent m e)).toNat :=
    ⟨_, rfl⟩
  rw [← hk]
  have hfull : 2 ^ 52 ≤ m <<< k ∨ e - k ≤ -1074 := by
    by_cases hend : e - (k : Int) ≤ -1074
    · exact .inr hend
    · left
      have hle := Nat.log2_self_le hm
      have hlog : 52 ≤ m.log2 + k := by omega
      rw [Nat.shiftLeft_eq]
      calc 2 ^ 52 ≤ 2 ^ (m.log2 + k) := Nat.pow_le_pow_right Nat.two_pos hlog
        _ = 2 ^ m.log2 * 2 ^ k := Nat.pow_add ..
        _ ≤ m * 2 ^ k := Nat.mul_le_mul_right _ hle
  have hrounds := rounds_roundWithAccuracy (keeps_exact (m <<< k)) hfull sign
  have hscale : ((m <<< k : ℕ) : ℚ) * 2 ^ (e - k) = m * 2 ^ e := by
    rw [Nat.shiftLeft_eq, zpow_sub₀ two_ne_zero, zpow_natCast]
    push_cast
    field_simp
  rw [hscale, ← mul_assoc, ← apply_natCast] at hrounds
  exact hrounds

theorem rounds_normalize (n : Int) (e : Int) (sign : Sign) :
    Rounds (n * 2 ^ e) (UnpackedFloat.normalize .binary64 n e sign) := by
  unfold UnpackedFloat.normalize
  split
  next h =>
    have hneg := Int.compare_eq_lt.mp h
    have hrounds := rounds_round (by omega : (-n).toNat ≠ 0) e .negative
    have hn : Sign.apply .negative (-n).toNat = n := by
      simp only [Sign.apply]
      omega
    rwa [hn] at hrounds
  next h =>
    have hzero := Int.compare_eq_eq.mp h
    subst hzero
    rw [Int.cast_zero, zero_mul]
    exact rounds_self (x := .zero sign) trivial rfl
  next h =>
    have hpos := Int.compare_eq_gt.mp h
    have hrounds := rounds_round (by omega : n.toNat ≠ 0) e .positive
    have hn : Sign.apply .positive n.toNat = n := by
      simp only [Sign.apply]
      omega
    rwa [hn] at hrounds

variable {x y : UnpackedFloat}

/-- Two numbers are brought to the smaller one of their exponents. -/
theorem apply_shiftLeft (sign : Sign) (m : Nat) {e low : Int} (hlow : low ≤ e) :
    ((sign.apply (m <<< (e - low).toNat : ℕ) : ℤ) : ℚ) * 2 ^ low = (sign.apply m : ℤ) * 2 ^ e := by
  have hexponent : (2 : ℚ) ^ e = 2 ^ (e - low).toNat * 2 ^ low := by
    rw [← zpow_natCast, ← zpow_add₀ two_ne_zero]
    congr 1
    omega
  rw [hexponent, apply_natCast, apply_natCast, Nat.shiftLeft_eq]
  push_cast
  ring

theorem rounds_add (hx : IsStandard x) (hy : IsStandard y) (hx' : x.isFinite = true)
    (hy' : y.isFinite = true) : Rounds (value x + value y) (UnpackedFloat.add .binary64 x y) := by
  cases x with
  | notANumber => cases hx'
  | infinity => cases hx'
  | zero sign =>
    cases y with
    | notANumber => cases hy'
    | infinity => cases hy'
    | zero sign' =>
      rw [show value (.zero sign) + value (.zero sign') = 0 from add_zero 0]
      simp only [UnpackedFloat.add]
      split <;> exact rounds_self (x := .zero _) trivial rfl
    | finite sign' m' e' h' =>
      rw [show value (.zero sign) = 0 from rfl, zero_add]
      exact rounds_self hy rfl
  | finite sign m e h =>
    cases y with
    | notANumber => cases hy'
    | infinity => cases hy'
    | zero sign' =>
      rw [show value (.zero sign') = 0 from rfl, add_zero]
      exact rounds_self hx rfl
    | finite sign' m' e' h' =>
      simp only [UnpackedFloat.add, decreaseExponent, value]
      have hrounds := rounds_normalize (sign.apply (m <<< (e - min e e').toNat : ℕ) +
        sign'.apply (m' <<< (e' - min e e').toNat : ℕ)) (min e e') .positive
      rw [Int.cast_add, add_mul, apply_shiftLeft sign m (min_le_left e e'),
        apply_shiftLeft sign' m' (min_le_right e e')] at hrounds
      exact hrounds

theorem apply_neg (sign : Sign) (n : Int) : (-sign).apply n = -sign.apply n := by
  cases sign with
  | negative => exact (neg_neg n).symm
  | positive => rfl

private theorem value_neg (x : UnpackedFloat) : value x.neg = -value x := by
  cases x <;> simp [UnpackedFloat.neg, value, apply_neg]

theorem unpacked_sub_eq_add (x y : UnpackedFloat) :
    UnpackedFloat.sub .binary64 x y = UnpackedFloat.add .binary64 x y.neg := by
  cases x <;> cases y <;>
    simp [UnpackedFloat.sub, UnpackedFloat.add, UnpackedFloat.neg, apply_neg, Int.sub_eq_add_neg]

theorem rounds_sub (hx : IsStandard x) (hy : IsStandard y) (hx' : x.isFinite = true)
    (hy' : y.isFinite = true) : Rounds (value x - value y) (UnpackedFloat.sub .binary64 x y) := by
  rw [unpacked_sub_eq_add, sub_eq_add_neg, ← value_neg]
  refine rounds_add hx ?_ hx' ?_
  · cases y <;> exact hy
  · cases y <;> exact hy'

private theorem apply_mul : ∀ (sign sign' : Sign) (n n' : Int),
    (sign * sign').apply (n * n') = sign.apply n * sign'.apply n'
  | .negative, .negative, n, n' => (neg_mul_neg n n').symm
  | .negative, .positive, n, n' => (neg_mul n n').symm
  | .positive, .negative, n, n' => (mul_neg n n').symm
  | .positive, .positive, _, _ => rfl

theorem rounds_mul (hx : IsStandard x) (hy : IsStandard y) (hx' : x.isFinite = true)
    (hy' : y.isFinite = true) : Rounds (value x * value y) (UnpackedFloat.mul .binary64 x y) := by
  cases x with
  | notANumber => cases hx'
  | infinity => cases hx'
  | zero sign =>
    rw [show value (.zero sign) = 0 from rfl, zero_mul]
    cases y with
    | notANumber => cases hy'
    | infinity => cases hy'
    | zero sign' => exact rounds_self (x := .zero _) trivial rfl
    | finite sign' m' e' h' => exact rounds_self (x := .zero _) trivial rfl
  | finite sign m e h =>
    cases y with
    | notANumber => cases hy'
    | infinity => cases hy'
    | zero sign' =>
      rw [show value (.zero sign') = 0 from rfl, mul_zero]
      exact rounds_self (x := .zero _) trivial rfl
    | finite sign' m' e' h' =>
      have hfull : 2 ^ 52 ≤ m * m' ∨ e + e' ≤ -1074 := by
        obtain ⟨-, hleast, hfull⟩ := hx
        obtain ⟨-, hleast', hfull'⟩ := hy
        obtain hle | hend := hfull
        · exact .inl (hle.trans (Nat.le_mul_of_pos_right m h'))
        · obtain hle | hend' := hfull'
          · exact .inl (hle.trans (Nat.le_mul_of_pos_left m' h))
          · exact .inr (by omega)
      have hrounds := rounds_roundWithAccuracy (keeps_exact (m * m')) hfull (sign * sign')
      simp only [UnpackedFloat.mul, value]
      have hscale : ((((sign * sign').apply 1 : ℤ) : ℚ) * (((m * m' : ℕ) : ℚ) * 2 ^ (e + e'))) =
          (sign.apply m : ℤ) * 2 ^ e * ((sign'.apply m' : ℤ) * 2 ^ e') := by
        rw [zpow_add₀ two_ne_zero, ← mul_assoc, ← apply_natCast, Nat.cast_mul, apply_mul]
        push_cast
        ring
      rwa [hscale] at hrounds

/-- A quotient with a remainder keeps the exact one. -/
theorem keeps_div (m : Nat) {d : Nat} (hd : 0 < d) :
    Keeps (.ofMantissaAndAccuracy (m / d) (accuracyOfFraction (m % d) d)) (m / d : ℚ) := by
  have hd' : (0 : ℚ) < d := by exact_mod_cast hd
  have hdiv : (m : ℚ) = d * (m / d : ℕ) + (m % d : ℕ) := by
    exact_mod_cast (Nat.div_add_mod m d).symm
  have hmod : ((m % d : ℕ) : ℚ) < d := by exact_mod_cast Nat.mod_lt m hd
  have hmod' : (0 : ℚ) ≤ (m % d : ℕ) := Nat.cast_nonneg _
  constructor
  · rw [mantissa_ofMantissaAndAccuracy, le_div_iff₀ hd']
    linarith
  · rw [mantissa_ofMantissaAndAccuracy, div_lt_iff₀ hd']
    linarith
  · rw [mantissa_ofMantissaAndAccuracy, div_eq_iff hd'.ne']
    intro heq
    have hzero : ((m % d : ℕ) : ℚ) = 0 := by linarith
    have hzero' : m % d = 0 := by exact_mod_cast hzero
    rw [hzero']
    exact ⟨rfl, rfl⟩

/-- The dividend is shifted so far that the quotient has all its bits. -/
theorem exists_divCore (m m' : Nat) (e e' : Int) (hm : 0 < m) (hm' : 0 < m') :
    ∃ k : Nat, divCore .binary64 m e m' e' =
        (m * 2 ^ k / m', e - e' - k, accuracyOfFraction (m * 2 ^ k % m') m') ∧
      (2 ^ 52 ≤ m * 2 ^ k / m' ∨ e - e' - k ≤ -1074) := by
  have htarget : Format.binary64.targetExponent (totalExponent m e - totalExponent m' e') =
      max (m.log2 + 1 + e - (m'.log2 + 1 + e') - 53) (-1074) := rfl
  obtain ⟨low, hlow⟩ : ∃ low, low = min (e - e')
    (Format.binary64.targetExponent (totalExponent m e - totalExponent m' e')) := ⟨_, rfl⟩
  refine ⟨(e - e' - low).toNat, ?_, ?_⟩
  · have hexponent : e - e' - ((e - e' - low).toNat : Int) = low := by omega
    simp only [divCore, ← hlow, Nat.shiftLeft_eq, hexponent]
  · by_cases hend : low ≤ -1074
    · right
      omega
    · left
      have hle := Nat.log2_self_le hm.ne'
      have hlt := Nat.lt_log2_self (n := m')
      rw [Nat.le_div_iff_mul_le hm']
      calc 2 ^ 52 * m' ≤ 2 ^ 52 * 2 ^ (m'.log2 + 1) := Nat.mul_le_mul_left _ hlt.le
        _ = 2 ^ (52 + (m'.log2 + 1)) := (Nat.pow_add ..).symm
        _ ≤ 2 ^ (m.log2 + (e - e' - low).toNat) := Nat.pow_le_pow_right Nat.two_pos (by omega)
        _ = 2 ^ m.log2 * 2 ^ (e - e' - low).toNat := Nat.pow_add ..
        _ ≤ m * 2 ^ (e - e' - low).toNat := Nat.mul_le_mul_right _ hle

theorem div_eq_mul : ∀ sign sign' : Sign, sign / sign' = sign * sign'
  | .negative, .negative | .negative, .positive | .positive, .negative | .positive, .positive => rfl

theorem rounds_div (hx' : x.isFinite = true) (hy' : y.isFinite = true) (hne : value y ≠ 0) :
    Rounds (value x / value y) (UnpackedFloat.div .binary64 x y) := by
  cases y with
  | notANumber => cases hy'
  | infinity => cases hy'
  | zero => exact absurd rfl hne
  | finite sign' m' e' h' =>
    cases x with
    | notANumber => cases hx'
    | infinity => cases hx'
    | zero sign =>
      rw [show value (.zero sign) = 0 from rfl, zero_div]
      exact rounds_self (x := .zero _) trivial rfl
    | finite sign m e h =>
      obtain ⟨k, hdiv, hfull⟩ := exists_divCore m m' e e' h h'
      have hrounds := rounds_roundWithAccuracy (keeps_div (m * 2 ^ k) h') hfull (sign * sign')
      simp only [UnpackedFloat.div, hdiv, div_eq_mul, value]
      have hsign : (((sign * sign').apply 1 : ℤ) : ℚ) =
          (sign.apply 1 : ℤ) / (sign'.apply 1 : ℤ) := by
        cases sign <;> cases sign' <;> norm_num [Sign.apply, HMul.hMul, Mul.mul]
      have hm' : (m' : ℚ) ≠ 0 := by exact_mod_cast h'.ne'
      have hscale : ((((sign * sign').apply 1 : ℤ) : ℚ) *
          (((m * 2 ^ k : ℕ) / m' : ℚ) * 2 ^ (e - e' - k))) =
          (sign.apply m : ℤ) * 2 ^ e / ((sign'.apply m' : ℤ) * 2 ^ e') := by
        rw [hsign, apply_natCast sign m, apply_natCast sign' m', zpow_sub₀ two_ne_zero,
          zpow_sub₀ two_ne_zero, zpow_natCast]
        push_cast
        field_simp
      rwa [hscale] at hrounds

/-- An operation on what is not finite gives an infinity, no number or zero. -/
theorem isStandard_add (hx : IsStandard x) (hy : IsStandard y) :
    IsStandard (UnpackedFloat.add .binary64 x y) := by
  by_cases hfinite : x.isFinite = true ∧ y.isFinite = true
  · exact (rounds_add hx hy hfinite.1 hfinite.2).isStandard
  · cases x <;> cases y <;> simp [UnpackedFloat.isFinite] at hfinite <;>
      simp only [UnpackedFloat.add] <;> first | trivial | (split <;> trivial)

theorem isStandard_sub (hx : IsStandard x) (hy : IsStandard y) :
    IsStandard (UnpackedFloat.sub .binary64 x y) := by
  rw [unpacked_sub_eq_add]
  refine isStandard_add hx ?_
  cases y <;> exact hy

theorem isStandard_mul (hx : IsStandard x) (hy : IsStandard y) :
    IsStandard (UnpackedFloat.mul .binary64 x y) := by
  by_cases hfinite : x.isFinite = true ∧ y.isFinite = true
  · exact (rounds_mul hx hy hfinite.1 hfinite.2).isStandard
  · cases x <;> cases y <;> simp [UnpackedFloat.isFinite] at hfinite <;> trivial

private theorem value_ne_zero {sign : Sign} {m : Nat} {e : Int} (h : 0 < m) :
    value (.finite sign m e h) ≠ 0 := by
  have hm : (m : ℚ) ≠ 0 := by exact_mod_cast h.ne'
  have hpow : (2 : ℚ) ^ e ≠ 0 := by positivity
  cases sign <;> simp [value, Sign.apply, hm, hpow]

theorem isStandard_div (x y : UnpackedFloat) : IsStandard (UnpackedFloat.div .binary64 x y) := by
  cases y with
  | finite sign' m' e' h' =>
    by_cases hfinite : x.isFinite = true
    · exact (rounds_div hfinite rfl (value_ne_zero h')).isStandard
    · cases x <;> simp [UnpackedFloat.isFinite] at hfinite <;> trivial
  | _ => cases x <;> trivial

theorem exists_keeps (m : Nat) (accuracy : Accuracy) :
    ∃ q, Keeps (.ofMantissaAndAccuracy m accuracy) q := by
  cases accuracy with
  | exact => exact ⟨m, keeps_exact m⟩
  | inexact ordering =>
    refine ⟨m + 1 / 2, ?_, ?_, fun h => ?_⟩
    · rw [mantissa_ofMantissaAndAccuracy]
      linarith
    · rw [mantissa_ofMantissaAndAccuracy]
      linarith
    · rw [mantissa_ofMantissaAndAccuracy] at h
      linarith

/-- The radicand is shifted so far that the root has all its bits. -/
theorem sqrtCore_full {m : Nat} (hm : 0 < m) (e : Int) :
    2 ^ 52 ≤ (sqrtCore .binary64 m e).1 ∨ (sqrtCore .binary64 m e).2.1 ≤ -1074 := by
  have htarget : Format.binary64.targetExponent ((totalExponent m e + 1).ediv 2) =
      max ((m.log2 + 1 + e + 1).ediv 2 - 53) (-1074) := rfl
  obtain ⟨low, hlow⟩ : ∃ low, low = min (e.ediv 2)
    (Format.binary64.targetExponent ((totalExponent m e + 1).ediv 2)) := ⟨_, rfl⟩
  simp only [sqrtCore, ← hlow]
  by_cases hend : low ≤ -1074
  · exact .inr hend
  · left
    have hle := Nat.log2_self_le hm.ne'
    have hhalf : (m.log2 + 1 + e + 1).ediv 2 * 2 ≤ m.log2 + 1 + e + 1 :=
      Int.ediv_mul_le _ two_ne_zero
    have hshift : 104 ≤ m.log2 + (e - 2 * low).toNat := by omega
    rw [Nat.le_sqrt, ← Nat.pow_add, Nat.shiftLeft_eq]
    calc 2 ^ (52 + 52) ≤ 2 ^ (m.log2 + (e - 2 * low).toNat) :=
          Nat.pow_le_pow_right Nat.two_pos hshift
      _ = 2 ^ m.log2 * 2 ^ (e - 2 * low).toNat := Nat.pow_add ..
      _ ≤ m * 2 ^ (e - 2 * low).toNat := Nat.mul_le_mul_right _ hle

/-- A number that is not negative has a root, which is a number. -/
theorem sqrt_positive {m : Nat} (e : Int) (h : 0 < m) :
    IsStandard (UnpackedFloat.sqrt .binary64 (.finite .positive m e h)) ∧
      (UnpackedFloat.sqrt .binary64 (.finite .positive m e h)).isFinite = true := by
  obtain ⟨q, hq⟩ := exists_keeps (sqrtCore .binary64 m e).1 (sqrtCore .binary64 m e).2.2
  have hrounds := rounds_roundWithAccuracy hq (sqrtCore_full h e) .positive
  exact ⟨hrounds.isStandard, hrounds.isFinite⟩

end SendMeter.Binary64
