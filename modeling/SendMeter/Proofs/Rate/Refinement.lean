import SendMeter.Proofs.Rate.Events

namespace SendMeter.Rate

variable {window : Int} {periodUnit averagingPeriod created : Rat} {initialInterval : Option Rat}
variable {start : Rate Rat}

/-- Two averages with the moments of the same values have the same mean and variance. -/
theorem mean_variance_eq_of_hasMoments {values : List Rat} {a b : Average Rat}
    (ha : Average.HasMoments window values a) (hb : Average.HasMoments window values b) :
    a.mean = b.mean ∧ a.variance = b.variance := by
  have hmean : a.mean = b.mean := by rw [ha.mean_eq, hb.mean_eq]
  refine ⟨hmean, ?_⟩
  rw [ha.variance_eq, hb.variance_eq, hmean]

theorem Follows.mean_variance_eq_appendAll {times : List Rat} {r : Rate Rat}
    (hwindow : 1 ≤ window) (h : Follows window start times r) (hgaps : gaps times ≠ [])
    {samples : List (Rat × Rat)}
    (hsamples : samples.map (·.1) = (gaps times).map (start.periodUnit / ·)) :
    ∃ a, (Average.initial window).appendAll samples = .ok a ∧
      r.average.mean = a.mean ∧ r.average.variance = a.variance := by
  obtain ⟨a, ha, -, -, hmoments⟩ := Average.exists_hasMoments hwindow samples
  rw [hsamples] at hmoments
  exact ⟨a, ha, mean_variance_eq_of_hasMoments (h.hasMoments hgaps) hmoments⟩

/-- Events at any clock readings are all recorded. The rate counts them and keeps the first and the
last of them, and it counts the positive gaps between them.

With a positive gap, its mean and its variance are those of an average of the same window that was
given the rates of these gaps, at any clock readings, and they are those of every rate of the same
window and period that saw the same gaps, whenever it was created, whatever its other settings are
and whichever events without a gap it saw. Without a positive gap, the mean is the seed, and there
is no variance. -/
theorem incrementAll_refines_appendAll
    (hstart : create window periodUnit averagingPeriod initialInterval created = .ok start)
    (times : List Rat) :
    ∃ r, start.incrementAll times = .ok r ∧
      r.average.count = times.length ∧
      r.firstUpdate = times.head? ∧
      r.average.lastUpdate = times.getLast? ∧
      r.intervals = (gaps times).length ∧
      (gaps times ≠ [] → ∀ samples : List (Rat × Rat),
        samples.map (·.1) = (gaps times).map (periodUnit / ·) →
        ∃ empty a : Average Rat, Average.create window = .ok empty ∧
          empty.appendAll samples = .ok a ∧
          r.average.mean = a.mean ∧ r.average.variance = a.variance) ∧
      (gaps times ≠ [] → ∀ averagingPeriod' initialInterval' created' start' times' r',
        create window periodUnit averagingPeriod' initialInterval' created' = .ok start' →
        start'.incrementAll times' = .ok r' → gaps times' = gaps times →
        r'.average.mean = r.average.mean ∧ r'.average.variance = r.average.variance) ∧
      (gaps times = [] → ∀ first, times.head? = some first →
        r.average.mean = periodUnit /
          (if 0 < first - created then first - created else initialInterval.getD periodUnit) ∧
        r.average.variance = 0) := by
  obtain ⟨hnew, hunit, -, hinterval, hcreated⟩ := isNew_of_create hstart
  obtain ⟨r, hr, hfollows⟩ := hnew.incrementAll times
  refine ⟨r, hr, hfollows.count_eq, hfollows.firstUpdate_eq, hfollows.lastUpdate_eq,
    hfollows.intervals_eq, ?_, ?_, ?_⟩
  · intro hgaps samples hsamples
    rw [← hunit] at hsamples
    obtain ⟨a, ha, heq⟩ :=
      hfollows.mean_variance_eq_appendAll hnew.window_pos hgaps hsamples
    exact ⟨_, a, Average.create_rat hnew.window_pos, ha, heq⟩
  · intro hgaps averagingPeriod' initialInterval' created' start' times' r' hstart' hr' htimes
    obtain ⟨hnew', hunit', -⟩ := isNew_of_create hstart'
    obtain ⟨s, hs, hfollows'⟩ := hnew'.incrementAll times'
    obtain rfl : s = r' := by
      rw [hr'] at hs
      cases hs
      rfl
    have hmoments := hfollows'.hasMoments (htimes ▸ hgaps)
    rw [htimes, hunit', ← hunit] at hmoments
    exact mean_variance_eq_of_hasMoments hmoments (hfollows.hasMoments hgaps)
  · intro hgaps first hfirst
    have hseed := hfollows.eq_seed hgaps first hfirst
    rwa [seed, firstInterval_rat, hunit, hinterval, hcreated] at hseed

/-- A rate that was created at 5 and sees events at 5, 5, 7, 6 and 10: the first, without a gap to
the creation, is rated by the interval of 4 and is forgotten; the gaps that count are 2 and 4. -/
theorem incrementAll_five_events :
    ∃ start r : Rate Rat, create 10 1 60 (some 4) 5 = .ok start ∧
      start.incrementAll [5, 5, 7, 6, 10] = .ok r ∧ r.average.count = 5 ∧ r.intervals = 2 ∧
      r.firstUpdate = some 5 ∧ r.average.lastUpdate = some 10 ∧ r.average.mean = 3 / 8 := by
  obtain ⟨start, hstart⟩ : ∃ start : Rate Rat, create 10 1 60 (some 4) 5 = .ok start := ⟨_, rfl⟩
  obtain ⟨r, hr, hcount, hfirst, hlast, hintervals, haverage, -, -⟩ :=
    incrementAll_refines_appendAll hstart [5, 5, 7, 6, 10]
  have hgaps : gaps [5, 5, 7, 6, 10] = [2, 4] := by decide +kernel
  rw [hgaps] at hintervals haverage
  obtain ⟨empty, a, hempty, ha, hmean, -⟩ := haverage (by simp) [(1 / 2, 7), (1 / 4, 10)] rfl
  refine ⟨start, r, hstart, hr, hcount, hintervals, hfirst, hlast, ?_⟩
  have hmean' : a.mean = 3 / 8 := by
    cases hempty
    cases ha
    decide +kernel
  rw [hmean, hmean']

end SendMeter.Rate
