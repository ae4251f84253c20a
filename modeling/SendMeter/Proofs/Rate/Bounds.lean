import SendMeter.Proofs.Average.Floats
import SendMeter.Proofs.Scalar.Ticks

namespace SendMeter.Rate

open Binary64

/-- The rate of one event per tick, or of one per period if ticks are longer than that. -/
def peak (tick : ℚ) (r : Rate Float) : ℚ :=
  max 1 (toRat r.periodUnit / tick)

/-- A rate with finite periods that was fed with the readings of a clock, and whose mean, unless it
is not a number, is bounded by what these readings can give. -/
structure Bounded (tick : ℚ) (r : Rate Float) : Prop where
  alpha : Average.IsWeight r.average.alpha
  createdAt : Reading tick r.createdAt
  periodUnit : r.periodUnit.isFinite = true
  periodUnit_pos : 0 < toRat r.periodUnit
  averagingPeriod : r.averagingPeriod.isFinite = true
  averagingPeriod_pos : 0 < toRat r.averagingPeriod
  initialInterval : r.initialInterval = r.periodUnit
  last : ∀ last, r.average.lastUpdate = some last → Reading tick last ∧ 0 < r.average.count
  mean_nonneg : 0 ≤ toRat r.average.mean
  mean_le : toRat r.average.mean ≤ (min r.average.count 2 : ℕ) * r.peak tick

variable {tick : ℚ} {r s : Rate Float} {now : Float}

theorem peak_pos (tick : ℚ) (r : Rate Float) : 0 < r.peak tick :=
  one_pos.trans_le (le_max_left _ _)

/-- More events never lower the bound. -/
theorem mul_peak_mono (tick : ℚ) (r : Rate Float) {m n : ℕ} (h : m ≤ n) :
    ((min m 2 : ℕ) : ℚ) * r.peak tick ≤ (min n 2 : ℕ) * r.peak tick := by
  have hle : ((min m 2 : ℕ) : ℚ) ≤ (min n 2 : ℕ) := by exact_mod_cast min_le_min_right 2 h
  exact mul_le_mul_of_nonneg_right hle (peak_pos tick r).le

theorem representable_peak (htick : IsTick tick) (r : Rate Float) :
    Representable (r.peak tick) := by
  have hone : Representable 1 := by
    have h := representable_natCast (n := 1) (by norm_num)
    rwa [Nat.cast_one] at h
  obtain ⟨heq, -⟩ | ⟨heq, -⟩ := max_cases 1 (toRat r.periodUnit / tick)
  · rwa [peak, heq]
  · rw [peak, heq]
    exact htick.representable_div (representable_toRat _)

theorem periodUnit_of_increment (h : r.increment now = .ok s) : s.periodUnit = r.periodUnit := by
  obtain ⟨-, mean, -, rfl⟩ | ⟨last, sample, average, -, -, -, -, rfl⟩ | ⟨last, -, -, rfl⟩ :=
    increment_eq_ok h
  · rfl
  · rfl
  · rfl

theorem bounded_of_create {window : Int} {periodUnit averagingPeriod now : Float}
    (hunit : periodUnit.isFinite = true) (hperiod : averagingPeriod.isFinite = true)
    (hnow : Reading tick now)
    (h : create window periodUnit averagingPeriod none now = .ok r) : r.Bounded tick := by
  obtain ⟨average, haverage, hunit_pos, hperiod_pos, -, rfl⟩ := create_eq_ok h
  have halpha := Average.isWeight_alpha haverage
  obtain ⟨-, alpha, -, rfl⟩ := Average.create_eq_ok haverage
  exact {
    alpha := halpha
    createdAt := hnow
    periodUnit := hunit
    periodUnit_pos := pos_of_not_le (isNaN_of_isFinite hunit) hunit_pos
    averagingPeriod := hperiod
    averagingPeriod_pos := pos_of_not_le (isNaN_of_isFinite hperiod) hperiod_pos
    initialInterval := rfl
    last := fun last hlast => by cases hlast
    mean_nonneg := toRat_zero.ge
    mean_le := by simp [Average.empty, Scalar.zero, toRat_zero] }

section Step

variable (h : r.Bounded tick) (htick : IsTick tick)
include h

section Sample

include htick

/-- The rate of one event in a time that is no shorter than a tick. -/
theorem sample_bounds {time : Float} (hnan : time.isNaN = false) (htime : tick ≤ toRat time) :
    (r.periodUnit / time).isNaN = false ∧ 0 ≤ toRat (r.periodUnit / time) ∧
      toRat (r.periodUnit / time) ≤ r.peak tick := by
  have hpos : 0 < toRat time := htick.pos.trans_le htime
  obtain hfinite | htop | hbottom := toRat_cases hnan
  · have hnear := roundsTo_div h.periodUnit hfinite hpos.ne'
    have hexact : toRat r.periodUnit / toRat time ≤ r.peak tick :=
      le_max_of_le_right (div_le_div_of_nonneg_left h.periodUnit_pos.le htick.pos htime)
    exact ⟨hnear.isNaN_eq, hnear.nonneg (div_nonneg h.periodUnit_pos.le hpos.le),
      hnear.toRat_le (representable_peak htick r) (peak_pos tick r).le hexact⟩
  · obtain ⟨hfinite, hzero⟩ := div_of_top h.periodUnit htop
    exact ⟨isNaN_of_isFinite hfinite, hzero.ge, hzero ▸ (peak_pos tick r).le⟩
  · linarith [limit_pos]

/-- The rate that a first event is given. -/
theorem seed_bounds (hnow : Reading tick now) :
    0 ≤ toRat (r.periodUnit / r.firstInterval now) ∧
      toRat (r.periodUnit / r.firstInterval now) ≤ r.peak tick := by
  unfold firstInterval
  dsimp only
  split
  · have hone : toRat r.periodUnit / toRat r.periodUnit = 1 := div_self h.periodUnit_pos.ne'
    have hnear := roundsTo_div h.periodUnit h.periodUnit h.periodUnit_pos.ne'
    rw [h.initialInterval]
    exact ⟨hnear.nonneg (by linarith), hnear.toRat_le (representable_peak htick r)
      (peak_pos tick r).le (hone ▸ le_max_left _ _)⟩
  next helapsed =>
    have hnan := (roundsTo_sub hnow.isFinite h.createdAt.isFinite).isNaN_eq
    have hlt := (pos_toRat_sub_iff hnow.isFinite h.createdAt.isFinite).mp
      (pos_of_not_le hnan helapsed)
    exact (sample_bounds h htick hnan (htick.le_toRat_sub hnow h.createdAt hlt)).2

end Sample

/-- The mean after one more gap. It may not be a number, which then stands for zero. -/
theorem mean_fold_le {a : Average Float} (hmean : a.mean = r.average.mean) {weight sample : Float}
    (hweight : Average.IsWeight weight) (hnan : sample.isNaN = false)
    (hnonneg : 0 ≤ toRat sample) (hle : toRat sample ≤ r.peak tick) :
    0 ≤ toRat (a.fold weight sample).mean ∧
      toRat (a.fold weight sample).mean ≤ 2 * r.peak tick := by
  have hpeak := peak_pos tick r
  have hlimit := limit_pos
  have hmean_nonneg : 0 ≤ toRat a.mean := hmean ▸ h.mean_nonneg
  have hmean_le : toRat a.mean ≤ 2 * r.peak tick := by
    refine hmean ▸ h.mean_le.trans (mul_le_mul_of_nonneg_right ?_ hpeak.le)
    exact_mod_cast min_le_right r.average.count 2
  have hnumber {x : Float} (hx : x.isNaN = true) : 0 ≤ toRat x ∧ toRat x ≤ 2 * r.peak tick := by
    rw [toRat_of_isNaN hx]
    exact ⟨le_rfl, by linarith⟩
  cases hmean' : a.mean.isNaN with
  | true => exact hnumber (Average.isNaN_mean_fold_left hmean')
  | false =>
    obtain hfinite | htop | hbottom := toRat_cases hmean'
    · obtain hfinite' | htop' | hbottom' := toRat_cases hnan
      · obtain ⟨hlow, hhigh⟩ :=
          Average.mean_fold_bounds hweight hfinite hfinite' hmean_nonneg hnonneg
        exact ⟨hlow, hhigh.trans (max_le hmean_le (by linarith))⟩
      · rw [Average.toRat_mean_fold_of_top hweight hfinite htop']
        exact ⟨hlimit.le, by linarith⟩
      · linarith
    · have hsample : ¬ sample < 0 := by
        rwa [lt_iff hnan isNaN_zero, toRat_zero, not_lt]
      exact hnumber (Average.isNaN_mean_fold_of_top hweight htop hsample)
    · linarith

include htick in
/-- Every event keeps the bounds: the first one is rated by the time that it took, a later one by
its gap, and an event without a gap leaves the mean. -/
theorem Bounded.increment (hnow : Reading tick now) (hs : r.increment now = .ok s) :
    s.Bounded tick := by
  obtain ⟨-, mean, hmean, rfl⟩ | ⟨last, sample, average, hlast, hgap, hsample, hblend, rfl⟩ |
    ⟨last, hlast, -, rfl⟩ := increment_eq_ok hs
  · obtain ⟨-, rfl⟩ := divide_eq_ok hmean
    obtain ⟨hnonneg, hle⟩ := seed_bounds h htick hnow
    have hone : ((min 1 2 : ℕ) : ℚ) * r.peak tick = r.peak tick := by norm_num
    exact { h with
      last := fun last hlast => by
        cases hlast
        exact ⟨hnow, one_pos⟩
      mean_nonneg := hnonneg
      mean_le := hle.trans_eq hone.symm }
  · obtain ⟨-, rfl⟩ := divide_eq_ok hsample
    obtain ⟨weight, hweight, rfl⟩ := Average.blend_eq_ok hblend
    obtain ⟨hreading, hcount⟩ := h.last last hlast
    have hweight' := Average.isWeight_weight (a := { r.average with
      count := r.average.count + 1, lastUpdate := some now }) h.alpha (Nat.succ_pos _) hweight
    have hgap' : (0 : Float) < now - last := hgap
    obtain ⟨-, hnan⟩ := isNaN_of_lt hgap'
    rw [lt_iff isNaN_zero hnan, toRat_zero] at hgap'
    have hlt := (pos_toRat_sub_iff hnow.isFinite hreading.isFinite).mp hgap'
    obtain ⟨hnan', hnonneg, hle⟩ :=
      sample_bounds h htick hnan (htick.le_toRat_sub hnow hreading hlt)
    obtain ⟨hlow, hhigh⟩ := mean_fold_le h (a := { r.average with
      count := r.average.count + 1, lastUpdate := some now }) rfl hweight' hnan' hnonneg hle
    have htwo : min (r.average.count + 1) 2 = 2 := by omega
    exact { h with
      last := fun last hlast => by
        cases hlast
        exact ⟨hnow, Nat.succ_pos _⟩
      mean_nonneg := hlow
      mean_le := by
        rw [Average.fold_count, htwo]
        exact hhigh }
  · exact { h with
      last := fun last hlast => by
        cases hlast
        exact ⟨hnow, Nat.succ_pos _⟩
      mean_nonneg := h.mean_nonneg
      mean_le := h.mean_le.trans (mul_peak_mono tick r (Nat.le_succ _)) }

end Step

end SendMeter.Rate
