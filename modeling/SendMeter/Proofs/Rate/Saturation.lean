import SendMeter.Proofs.Rate.Bounds

namespace SendMeter.Rate

open Binary64

/-- The time that the events of a rate cover at one event per period. -/
def covered (r : Rate Float) : Float :=
  Float.ofInt r.average.count * r.periodUnit

/-- A rate that is infinite for events that cover a finite time, and no time has passed since the
last of them. -/
structure Saturated (r : Rate Float) (now : Float) : Prop where
  isInf : r.average.mean.isInf = true
  covered : r.covered.isFinite = true
  idle : ∃ last, r.average.lastUpdate = some last ∧ ¬ last < now

variable {tick : ℚ} {r : Rate Float} {last now : Float}

theorem mean_eq_zero (hle : r.average.mean ≤ 0) (now : Float) : r.mean now = .ok 0 := by
  unfold mean
  cases r.average.lastUpdate with
  | none => rfl
  | some last => exact if_pos hle

private theorem mean_of_none (hlast : r.average.lastUpdate = none) (now : Float) :
    r.mean now = .ok 0 := by
  unfold mean
  rw [hlast]
  rfl

theorem saturated_iff (hlast : r.average.lastUpdate = some last) :
    r.Saturated now ↔
      (r.average.mean.isInf = true ∧ r.covered.isFinite = true) ∧ ¬ last < now := by
  constructor
  · rintro ⟨hinf, hcovered, last', hlast', hidle⟩
    rw [hlast] at hlast'
    cases hlast'
    exact ⟨⟨hinf, hcovered⟩, hidle⟩
  · rintro ⟨⟨hinf, hcovered⟩, hidle⟩
    exact ⟨hinf, hcovered, last, hlast, hidle⟩

private theorem horizon_eq (hmean : ¬ r.average.mean ≤ 0)
    (hcount : (Float.ofInt r.average.count).isFinite = true) :
    r.horizon = .ok (Scalar.minimum r.averagingPeriod (r.covered / r.average.mean)) := by
  unfold horizon
  rw [ofCount_of_isFinite hcount]
  simp only [bind, Except.bind, divide_of_beq_zero _ (beq_zero_of_not_le hmean)]
  rfl

private theorem mean_eq_divide (hlast : r.average.lastUpdate = some last)
    (hmean : ¬ r.average.mean ≤ 0) {span : Float} (hspan : r.horizon = .ok span) :
    r.mean now = Scalar.divide (r.average.mean * span) (span + idle last now) := by
  have hmean' : ¬ r.average.mean ≤ Scalar.zero := hmean
  unfold mean
  simp only [hlast, if_neg hmean', hspan, bind, Except.bind]

/-- The idle time is a number that is not negative. It is positive exactly if time has passed. -/
theorem idle_bounds (hlast : last.isFinite = true) (hnow : now.isFinite = true) :
    (idle last now).isNaN = false ∧ 0 ≤ toRat (idle last now) ∧
      (0 < toRat (idle last now) ↔ last < now) := by
  have hnan := (roundsTo_sub hnow hlast).isNaN_eq
  have hidle : toRat (idle last now) = max 0 (toRat (now - last)) :=
    Scalar.toRat_maximum isNaN_zero hnan
  refine ⟨Scalar.isNaN_maximum isNaN_zero hnan, hidle ▸ le_max_left _ _, ?_⟩
  rw [hidle, lt_max_iff, ← pos_toRat_sub_iff hnow hlast]
  simp

theorem peak_least (hunit : 0 < toRat r.periodUnit) :
    r.peak least = toRat r.periodUnit / least := by
  refine max_eq_right ((one_le_div least_pos).mpr ?_)
  exact least_le_toRat hunit

section Reading

variable (h : r.Bounded least)
include h

/-- The events cover as many periods as there are events, or at least two of them, unless that is
beyond the range of the floats. -/
theorem covered_bounds (hcount : (Float.ofInt r.average.count).isFinite = true) :
    r.covered.isNaN = false ∧
      min ((min r.average.count 2 : ℕ) * toRat r.periodUnit) limit ≤ toRat r.covered := by
  have hnear := roundsTo_mul hcount h.periodUnit
  have hcast := le_toRat_ofInt (k := min r.average.count 2) (n := r.average.count)
    (le_trans (min_le_right _ _) (by norm_num)) (min_le_left _ _)
  have hrepresentable : Representable ((min r.average.count 2 : ℕ) * toRat r.periodUnit) := by
    have hunit := representable_toRat r.periodUnit
    obtain heq | heq | heq : min r.average.count 2 = 0 ∨ min r.average.count 2 = 1 ∨
        min r.average.count 2 = 2 := by omega
    · rw [heq, Nat.cast_zero, zero_mul]
      exact representable_zero
    · rwa [heq, Nat.cast_one, one_mul]
    · rw [heq, mul_comm]
      exact_mod_cast hunit.mul_two_pow 1
  exact ⟨hnear.isNaN_eq, hnear.min_le_toRat hrepresentable
    (mul_nonneg (Nat.cast_nonneg _) h.periodUnit_pos.le)
    (mul_le_mul_of_nonneg_right hcast h.periodUnit_pos.le)⟩

/-- The time that the events cover at the smoothed rate is zero if the rate is infinite and they
cover a finite time at one event per period. Otherwise it is positive, or the quotient of two
infinities or by what is not a number. -/
theorem span_cases (hcount : (Float.ofInt r.average.count).isFinite = true)
    (hmean : ¬ r.average.mean ≤ 0) :
    (r.average.mean.isInf = true ∧ r.covered.isFinite = true ∧
        (r.covered / r.average.mean).isNaN = false ∧ toRat (r.covered / r.average.mean) = 0) ∨
      (¬ (r.average.mean.isInf = true ∧ r.covered.isFinite = true) ∧
        ((r.covered / r.average.mean).isNaN = true ∨ 0 < toRat (r.covered / r.average.mean))) := by
  have hlimit := limit_pos
  obtain ⟨hcovered_nan, hcovered⟩ := covered_bounds h hcount
  have hnot_inf (hne : |toRat r.average.mean| ≠ limit) :
      ¬ (r.average.mean.isInf = true ∧ r.covered.isFinite = true) :=
    fun hinf => hne (isInf_iff.mp hinf.1)
  cases hmean_nan : r.average.mean.isNaN with
  | true =>
    refine .inr ⟨hnot_inf ?_, .inl (isNaN_div_right _ hmean_nan)⟩
    rw [toRat_of_isNaN hmean_nan, abs_zero]
    exact hlimit.ne
  | false =>
    have hpos := pos_of_not_le hmean_nan hmean
    have hevents : toRat r.average.mean * least ≤
        (min r.average.count 2 : ℕ) * toRat r.periodUnit := by
      have hle := h.mean_le
      rwa [peak_least h.periodUnit_pos, ← mul_div_assoc, le_div_iff₀ least_pos] at hle
    have hcovered_pos : 0 < toRat r.covered :=
      (lt_min ((mul_pos hpos least_pos).trans_le hevents) hlimit).trans_le hcovered
    obtain hfinite | htop | hbottom := toRat_cases hmean_nan
    · refine .inr ⟨hnot_inf ((isFinite_iff hmean_nan).mp hfinite).ne, .inr ?_⟩
      obtain hcovered_finite | hcovered_top | hcovered_bottom := toRat_cases hcovered_nan
      · refine (roundsTo_div hcovered_finite hfinite hpos.ne').pos ?_
        rw [le_div_iff₀ hpos, mul_comm]
        have hbelow : toRat r.covered < limit := (abs_lt.mp
          ((isFinite_iff hcovered_nan).mp hcovered_finite)).2
        exact hevents.trans ((min_le_iff.mp hcovered).resolve_right (not_le.mpr hbelow))
      · rw [toRat_top_div hcovered_top hfinite hpos]
        exact hlimit
      · linarith
    · have hinf : r.average.mean.isInf = true := by
        rw [isInf_iff, htop, abs_of_pos hlimit]
      cases hcovered_finite : r.covered.isFinite with
      | true =>
        obtain ⟨hspan_finite, hspan⟩ := div_of_top hcovered_finite htop
        exact .inl ⟨hinf, rfl, isNaN_of_isFinite hspan_finite, hspan⟩
      | false =>
        obtain hcovered_finite' | hcovered_top | hcovered_bottom := toRat_cases hcovered_nan
        · rw [hcovered_finite] at hcovered_finite'
          cases hcovered_finite'
        · exact .inr ⟨by simp, .inl (isNaN_top_div_top hcovered_top htop)⟩
        · linarith
    · linarith

/-- The horizon is zero or positive, as the covered time is; where that is not a number, it is the
averaging period. -/
theorem horizon_cases (hcount : (Float.ofInt r.average.count).isFinite = true)
    (hmean : ¬ r.average.mean ≤ 0) : ∃ span, r.horizon = .ok span ∧ span.isNaN = false ∧
      ((r.average.mean.isInf = true ∧ r.covered.isFinite = true ∧ toRat span = 0) ∨
        (¬ (r.average.mean.isInf = true ∧ r.covered.isFinite = true) ∧ 0 < toRat span)) := by
  have hperiod := isNaN_of_isFinite h.averagingPeriod
  refine ⟨_, horizon_eq hmean hcount, ?_⟩
  obtain ⟨hinf, hcovered, hnan, hzero⟩ | ⟨hnot, hnan | hpos⟩ := span_cases h hcount hmean
  · refine ⟨Scalar.isNaN_minimum hperiod hnan, .inl ⟨hinf, hcovered, ?_⟩⟩
    rw [Scalar.toRat_minimum hperiod hnan, hzero]
    exact min_eq_right h.averagingPeriod_pos.le
  · obtain ⟨-, heq⟩ | ⟨hlt, -⟩ :=
      Scalar.minimum_cases r.averagingPeriod (r.covered / r.average.mean)
    · rw [heq]
      exact ⟨hperiod, .inr ⟨hnot, h.averagingPeriod_pos⟩⟩
    · exact absurd hlt (not_lt_of_isNaN_left hnan _)
  · have hnan := isNaN_of_toRat_ne_zero hpos.ne'
    refine ⟨Scalar.isNaN_minimum hperiod hnan, .inr ⟨hnot, ?_⟩⟩
    rw [Scalar.toRat_minimum hperiod hnan]
    exact lt_min h.averagingPeriod_pos hpos

/-- A reading fails exactly if the rate is saturated, and then because it divides by zero. -/
theorem mean_cases (hcount : r.average.count < 2 ^ 1023) (hnow : now.isFinite = true) :
    (r.Saturated now ∧ r.mean now = .error .divisionByZero) ∨
      (¬ r.Saturated now ∧ ∃ rate, r.mean now = .ok rate) := by
  by_cases hmean : r.average.mean ≤ 0
  · refine .inr ⟨fun hsaturated => ?_, 0, mean_eq_zero hmean now⟩
    have hinf := isInf_iff.mp hsaturated.isInf
    rw [le_iff (isNaN_of_le hmean).1 isNaN_zero, toRat_zero] at hmean
    rw [abs_of_nonneg h.mean_nonneg] at hinf
    linarith [limit_pos]
  cases hlast : r.average.lastUpdate with
  | none =>
    refine .inr ⟨fun hsaturated => ?_, 0, mean_of_none hlast now⟩
    obtain ⟨last, hsome, -⟩ := hsaturated.idle
    rw [hlast] at hsome
    cases hsome
  | some last =>
    obtain ⟨hreading, hpos⟩ := h.last last hlast
    obtain ⟨hcount', -⟩ := isFinite_ofInt hpos hcount (by norm_num)
    obtain ⟨span, hspan, hspan_nan, hcases⟩ := horizon_cases h hcount' hmean
    obtain ⟨hidle_nan, hidle_nonneg, hidle_pos⟩ := idle_bounds hreading.isFinite hnow
    have hspan_nonneg : 0 ≤ toRat span := by
      obtain ⟨-, -, hzero⟩ | ⟨-, hpos⟩ := hcases
      · exact hzero.ge
      · exact hpos.le
    rw [mean_eq_divide hlast hmean hspan, saturated_iff hlast]
    obtain ⟨hpos, hok⟩ | ⟨hspan_zero, hidle_zero, herror⟩ :=
      divide_add_cases (r.average.mean * span) hspan_nan hidle_nan hspan_nonneg hidle_nonneg
    · refine .inr ⟨?_, hok⟩
      rintro ⟨hinf, hidle⟩
      obtain ⟨-, -, hzero⟩ | ⟨hnot, -⟩ := hcases
      · exact hidle (hidle_pos.mp (hpos.resolve_left hzero.not_gt))
      · exact hnot hinf
    · refine .inl ⟨⟨?_, fun hidle => (hidle_pos.mpr hidle).ne' hidle_zero⟩, herror⟩
      obtain ⟨hinf, hcovered, -⟩ | ⟨-, hpos⟩ := hcases
      · exact ⟨hinf, hcovered⟩
      · exact absurd hspan_zero hpos.ne'

end Reading

/-- A rate whose peak is within half of the range of the floats is finite. -/
theorem Bounded.not_saturated (h : r.Bounded tick) (hpeak : 2 * r.peak tick < limit)
    (now : Float) : ¬ r.Saturated now := by
  intro hsaturated
  have hinf := isInf_iff.mp hsaturated.isInf
  have hcount : ((min r.average.count 2 : ℕ) : ℚ) ≤ 2 := by exact_mod_cast min_le_right _ _
  have hle := h.mean_le.trans (mul_le_mul_of_nonneg_right hcount (peak_pos tick r).le)
  rw [abs_of_nonneg h.mean_nonneg] at hinf
  linarith

end SendMeter.Rate
