import SendMeter.Proofs.Rate.Staleness

namespace SendMeter.Rate

/-- A rate that is reported in another unit, with an interval of its own for a first event. -/
def inUnit (factor interval : Rat) (r : Rate Rat) : Rate Rat :=
  { r with
    average := r.average.scaled factor
    periodUnit := factor * r.periodUnit
    initialInterval := interval }

section Run

variable {factor interval : Rat} {r : Rate Rat}

private theorem start_inUnit {now : Rat}
    (hfirst : (r.inUnit factor interval).firstInterval now = r.firstInterval now) :
    (r.inUnit factor interval).start now = (r.start now).map (inUnit factor interval) := by
  have hunit : (r.inUnit factor interval).periodUnit = factor * r.periodUnit := rfl
  unfold start
  rw [hfirst, hunit, Scalar.divide_mul]
  cases Scalar.divide r.periodUnit (r.firstInterval now) with
  | error e => rfl
  | ok mean => simp [inUnit, Average.scaled, Except.map, bind, Except.bind, pure, Except.pure]

private theorem next_inUnit (r : Rate Rat) (last now : Rat) :
    (r.inUnit factor interval).next last now = (r.next last now).map (inUnit factor interval) := by
  by_cases hgap : Scalar.zero < now - last
  · have hblend (sample : Rat) := Average.blend_scaled factor sample
      { r.average with count := r.average.count + 1, lastUpdate := some now } (r.intervals + 1)
    simp only [next, if_pos hgap, inUnit, Scalar.divide_mul]
    cases Scalar.divide r.periodUnit (now - last) with
    | error e => rfl
    | ok sample =>
      simp only [Average.scaled] at hblend
      simp only [Average.scaled, Except.map, bind, Except.bind, hblend]
      cases Average.blend { r.average with
          count := r.average.count + 1, lastUpdate := some now } sample (r.intervals + 1) with
      | error e => rfl
      | ok average => rfl
  · rw [next_of_not_lt _ hgap, next_of_not_lt _ hgap]
    rfl

theorem increment_inUnit {now : Rat}
    (hfirst : r.average.lastUpdate = none →
      (r.inUnit factor interval).firstInterval now = r.firstInterval now) :
    (r.inUnit factor interval).increment now = (r.increment now).map (inUnit factor interval) := by
  have hlast : (r.inUnit factor interval).average.lastUpdate = r.average.lastUpdate := rfl
  unfold increment
  rw [hlast]
  cases hnone : r.average.lastUpdate with
  | none => exact start_inUnit (hfirst hnone)
  | some last => exact next_inUnit r last now

/-- Only a first event looks at the interval that is not scaled. -/
theorem incrementAll_inUnit {times : List Rat}
    (hfirst : ∀ first ∈ times.head?, r.average.lastUpdate = none →
      (r.inUnit factor interval).firstInterval first = r.firstInterval first) :
    (r.inUnit factor interval).incrementAll times =
      (r.incrementAll times).map (inUnit factor interval) := by
  induction times generalizing r with
  | nil => rfl
  | cons now times ih =>
    have hstep := increment_inUnit (hfirst now rfl)
    simp only [incrementAll, List.foldlM_cons, hstep]
    cases hnext : r.increment now with
    | error e => rfl
    | ok next =>
      refine ih fun first _ hnone => ?_
      rw [lastUpdate_of_increment hnext] at hnone
      cases hnone

/-- The unit cancels in the time that the events cover. -/
theorem horizon_inUnit (hfactor : factor ≠ 0) (interval : Rat) (r : Rate Rat) :
    (r.inUnit factor interval).horizon = r.horizon := by
  have hcount (count : Rat) :
      count * (factor * r.periodUnit) = factor * (count * r.periodUnit) := mul_left_comm _ _ _
  simp only [horizon, inUnit, Average.scaled, Scalar.ofCount_rat, bind, Except.bind, hcount,
    Scalar.divide_mul_left hfactor]

theorem mean_inUnit (hfactor : 0 < factor) (r : Rate Rat) (now : Rat) :
    (r.inUnit factor interval).mean now = (r.mean now).map (factor * ·) := by
  have hlast : (r.inUnit factor interval).average.lastUpdate = r.average.lastUpdate := rfl
  have hmean : (r.inUnit factor interval).average.mean = factor * r.average.mean := rfl
  have hnonpos : factor * r.average.mean ≤ 0 ↔ r.average.mean ≤ 0 := by
    rw [← not_lt, ← not_lt, mul_pos_iff_of_pos_left hfactor]
  have hhorizon := horizon_inUnit hfactor.ne' interval r
  unfold mean
  rw [hlast, hmean, hhorizon]
  cases r.average.lastUpdate with
  | none => exact congrArg Except.ok (mul_zero factor).symm
  | some last =>
    simp only [Scalar.zero_rat, hnonpos]
    split
    · exact congrArg Except.ok (mul_zero factor).symm
    · cases r.horizon with
      | error e => rfl
      | ok horizon => simp only [bind, Except.bind, mul_assoc, Scalar.divide_mul]

end Run

variable {window : Int} {factor periodUnit averagingPeriod created : Rat}
variable {initialInterval initialInterval' : Option Rat} {start start' : Rate Rat}

section Create

variable (hstart : create window periodUnit averagingPeriod initialInterval created = .ok start)
variable (hstart' : create window (factor * periodUnit) averagingPeriod initialInterval' created =
  .ok start')
include hstart hstart'

/-- Rates that are created for two units differ in nothing else but the interval of a first
event. -/
theorem eq_inUnit_of_create : start' = start.inUnit factor start'.initialInterval := by
  obtain ⟨average, haverage, -, -, -, rfl⟩ := create_eq_ok hstart
  obtain ⟨average', haverage', -, -, -, rfl⟩ := create_eq_ok hstart'
  obtain rfl : average = average' := Except.ok.inj (haverage.symm.trans haverage')
  have hinitial := Average.create_rat (Average.window_pos_of_create haverage)
  obtain rfl : average = Average.initial window := Except.ok.inj (haverage.symm.trans hinitial)
  rw [inUnit, Average.scaled_initial]

/-- The interval of the first event does not depend on the unit. -/
theorem firstInterval_inUnit_of_create {first : Rat}
    (h : (∃ interval, initialInterval = some interval ∧ initialInterval' = some interval) ∨
      created < first) :
    (start.inUnit factor start'.initialInterval).firstInterval first =
      start.firstInterval first := by
  obtain ⟨-, -, -, hinterval, hcreated⟩ := isNew_of_create hstart
  obtain ⟨-, -, -, hinterval', -⟩ := isNew_of_create hstart'
  have hcreated' : (start.inUnit factor start'.initialInterval).createdAt = created := hcreated
  rw [firstInterval_rat, firstInterval_rat, hcreated, hcreated']
  obtain ⟨interval, rfl, rfl⟩ | hlt := h
  · have hsame : (start.inUnit factor start'.initialInterval).initialInterval =
        start.initialInterval := hinterval'.trans hinterval.symm
    rw [hsame]
  · rw [if_pos (sub_pos.mpr hlt), if_pos (sub_pos.mpr hlt)]

end Create

/-- Two rates differ in their units, the second of which is `factor` times as long, and record the
same events. If both are given the same interval for a first event that comes with the creation, or
the first event comes after it, then at every point they have the same count and the same horizon,
so that both go stale alike. At any clock reading the second one reads `factor` times what the first
one reads, and its variance is the square of this times the other. -/
theorem readings_follow_unit (hfactor : 0 < factor)
    (hstart : create window periodUnit averagingPeriod initialInterval created = .ok start)
    (hstart' : create window (factor * periodUnit) averagingPeriod initialInterval' created =
      .ok start') {times : List Rat}
    (hfirst : (∃ interval, initialInterval = some interval ∧ initialInterval' = some interval) ∨
      ∀ first ∈ times.head?, created < first) :
    ∃ r r' : Rate Rat, start.incrementAll times = .ok r ∧ start'.incrementAll times = .ok r' ∧
      r'.average.count = r.average.count ∧
      r'.horizon = r.horizon ∧
      (∀ now, ∃ reading, r.mean now = .ok reading ∧ r'.mean now = .ok (factor * reading)) ∧
      r'.average.variance = factor ^ 2 * r.average.variance := by
  obtain ⟨hnew, -⟩ := isNew_of_create hstart
  obtain ⟨r, hr, hfollows⟩ := hnew.incrementAll times
  have hrun : start'.incrementAll times = .ok (r.inUnit factor start'.initialInterval) := by
    have hmap := congrArg (Except.map (inUnit factor start'.initialInterval)) hr
    rw [← incrementAll_inUnit, ← eq_inUnit_of_create hstart hstart'] at hmap
    · exact hmap
    · intro first hmem _
      exact firstInterval_inUnit_of_create hstart hstart' (hfirst.imp_right fun h => h first hmem)
  refine ⟨r, _, hr, hrun, rfl, horizon_inUnit hfactor.ne' _ r, fun now => ?_, rfl⟩
  obtain ⟨reading, hreading⟩ := hfollows.exists_mean hnew now
  exact ⟨reading, hreading, by rw [mean_inUnit hfactor, hreading]; rfl⟩

/-- Per second and per minute, with other intervals for a first event, which neither of them needs.
Events at 1 and 3, read at 4: half an event per second has decayed to four fifths of it. -/
theorem readings_follow_unit_minutes :
    ∃ start start' r r' : Rate Rat, create 10 1 60 none 0 = .ok start ∧
      create 10 60 60 (some 7) 0 = .ok start' ∧ start.incrementAll [1, 3] = .ok r ∧
      start'.incrementAll [1, 3] = .ok r' ∧ r.mean 4 = .ok (2 / 5) ∧ r'.mean 4 = .ok 24 := by
  obtain ⟨start, hstart⟩ : ∃ start : Rate Rat, create 10 1 60 none 0 = .ok start := ⟨_, rfl⟩
  obtain ⟨start', hstart'⟩ : ∃ start : Rate Rat, create 10 60 60 (some 7) 0 = .ok start := ⟨_, rfl⟩
  have hunit : create 10 (60 * 1) 60 (some 7) 0 = .ok start' := by rwa [mul_one]
  have hafter : ∀ first ∈ [(1 : Rat), 3].head?, 0 < first := by simp
  obtain ⟨r, r', hr, hr', -, -, hread, -⟩ :=
    readings_follow_unit (show (0 : Rat) < 60 by norm_num) hstart hunit (.inr hafter)
  obtain ⟨reading, hreading, hreading'⟩ := hread 4
  have hvalue : (start.incrementAll [1, 3]).bind (fun r => r.mean 4) = .ok (2 / 5) := by
    cases hstart
    decide +kernel
  rw [hr] at hvalue
  obtain rfl : reading = 2 / 5 := Except.ok.inj (hreading.symm.trans hvalue)
  have hscaled : (60 : Rat) * (2 / 5) = 24 := by norm_num
  rw [hscaled] at hreading'
  exact ⟨start, start', r, r', hstart, hstart', hr, hr', hreading, hreading'⟩

end SendMeter.Rate
