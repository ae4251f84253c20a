import Mathlib
import SendMeter.Proofs.Rate.Events

namespace SendMeter.Rate

/-- A rate whose events cover a span of time, after an idle time. -/
def decayed (mean span idle : Rat) : Rat :=
  mean * span / (span + idle)

section Decayed

variable {mean span : Rat}

theorem decayed_zero (hspan : 0 < span) : decayed mean span 0 = mean := by
  rw [decayed, add_zero]
  exact mul_div_cancel_right₀ mean hspan.ne'

theorem decayed_pos (hmean : 0 < mean) (hspan : 0 < span) {idle : Rat} (hidle : 0 ≤ idle) :
    0 < decayed mean span idle :=
  div_pos (mul_pos hmean hspan) (by linarith)

theorem decayed_strictAntiOn (hmean : 0 < mean) (hspan : 0 < span) :
    StrictAntiOn (decayed mean span) (Set.Ici 0) := by
  intro idle hidle later _ hlt
  have hpos : 0 < span + idle := add_pos_of_pos_of_nonneg hspan hidle
  exact div_lt_div_of_pos_left (mul_pos hmean hspan) hpos (by linarith)

/-- A longer span makes a rate go stale more slowly. -/
theorem decayed_le_of_span_le (hmean : 0 < mean) (hspan : 0 < span) {longer idle : Rat}
    (hle : span ≤ longer) (hidle : 0 < idle) :
    decayed mean span idle ≤ decayed mean longer idle := by
  have hgap : mean * span * idle ≤ mean * longer * idle :=
    mul_le_mul_of_nonneg_right (mul_le_mul_of_nonneg_left hle hmean.le) hidle.le
  rw [decayed, decayed, div_le_div_iff₀ (by linarith) (by linarith)]
  calc
    mean * span * (longer + idle) = mean * span * longer + mean * span * idle := by ring
    _ ≤ mean * span * longer + mean * longer * idle := by linarith
    _ = mean * longer * (span + idle) := by ring

/-- The events that a rate stands for, over the idle time alone, are more than the reading. -/
theorem decayed_lt_of_mul_span_le (hmean : 0 < mean) (hspan : 0 < span) {events idle : Rat}
    (hle : mean * span ≤ events) (hidle : 0 < idle) : decayed mean span idle < events / idle :=
  calc
    decayed mean span idle < mean * span / idle :=
      div_lt_div_of_pos_left (mul_pos hmean hspan) hidle (by linarith)
    _ ≤ events / idle := div_le_div_of_nonneg_right hle hidle.le

/-- After as much silence as its span, a rate has halved. -/
theorem decayed_span (mean : Rat) (hspan : 0 < span) : decayed mean span span = mean / 2 := by
  rw [decayed]
  field_simp
  ring

theorem tendsto_decayed (mean span : Rat) :
    Filter.Tendsto (decayed mean span) Filter.atTop (nhds 0) :=
  Filter.Tendsto.const_div_atTop (Filter.tendsto_atTop_add_const_left _ span Filter.tendsto_id) _

end Decayed

variable {window : Int} {r start : Rate Rat} {times : List Rat}

/-- The horizon of a rate, as it is where no division fails. -/
def span (r : Rate Rat) : Rat :=
  min r.averagingPeriod (r.average.count * r.periodUnit / r.average.mean)

theorem horizon_rat (hmean : 0 < r.average.mean) : r.horizon = .ok r.span := by
  simp only [horizon, Scalar.ofCount_rat, bind, Except.bind, Scalar.divide_rat hmean.ne',
    Scalar.minimum_rat]
  rfl

theorem Follows.span_pos (hnew : IsNew window start) (h : Follows window start times r)
    (hne : times ≠ []) : 0 < r.span := by
  have hcount : 0 < times.length := List.length_pos_iff.mpr hne
  have hcount' : (0 : Rat) < r.average.count := by
    rw [h.count_eq]
    exact_mod_cast hcount
  refine lt_min ?_ (div_pos (mul_pos hcount' ?_) (h.mean_pos hne))
  · rw [h.averagingPeriod_eq]
    exact hnew.averagingPeriod_pos
  · rw [h.periodUnit_eq]
    exact hnew.periodUnit_pos

theorem mean_mul_span_le (hmean : 0 < r.average.mean) :
    r.average.mean * r.span ≤ r.average.count * r.periodUnit := by
  have hle : r.span ≤ r.average.count * r.periodUnit / r.average.mean := min_le_right _ _
  have hmul := mul_le_mul_of_nonneg_left hle hmean.le
  rwa [mul_div_cancel₀ _ hmean.ne'] at hmul

theorem idle_nonneg (last now : Rat) : 0 ≤ idle last now := by
  rw [idle, Scalar.maximum_rat]
  exact le_max_left _ _

/-- The reading of a rate with events is its mean, decayed by the idle time. -/
theorem mean_rat {last : Rat} (hlast : r.average.lastUpdate = some last)
    (hmean : 0 < r.average.mean) (hspan : 0 < r.span) (now : Rat) :
    r.mean now = .ok (decayed r.average.mean r.span (idle last now)) := by
  have hdivisor : r.span + idle last now ≠ 0 :=
    (add_pos_of_pos_of_nonneg hspan (idle_nonneg last now)).ne'
  rw [mean, hlast]
  simp only [Scalar.zero_rat, if_neg (not_le.mpr hmean), horizon_rat hmean, bind, Except.bind,
    Scalar.divide_rat hdivisor]
  rfl

/-- The reading of a rate, some time after the last of its events. -/
theorem Follows.mean_add_idle (hnew : IsNew window start) (h : Follows window start times r)
    {last : Rat} (hlast : times.getLast? = some last) {idle : Rat} (hidle : 0 ≤ idle) :
    r.mean (last + idle) = .ok (decayed r.average.mean r.span idle) := by
  have hne : times ≠ [] := by
    rintro rfl
    cases hlast
  have hsilence : Rate.idle last (last + idle) = idle := by
    rw [Rate.idle, Scalar.maximum_rat, add_sub_cancel_left]
    exact max_eq_right hidle
  rw [mean_rat (h.lastUpdate_eq.trans hlast) (h.mean_pos hne) (h.span_pos hnew hne), hsilence]

/-- A rate can be read at every clock reading, with events or without. -/
theorem Follows.exists_mean (hnew : IsNew window start) (h : Follows window start times r)
    (now : Rat) : ∃ reading, r.mean now = .ok reading := by
  cases hlast : r.average.lastUpdate with
  | none => exact ⟨0, by rw [mean, hlast]; rfl⟩
  | some last =>
    have hne : times ≠ [] := by
      rintro rfl
      rw [h.lastUpdate_eq] at hlast
      cases hlast
    exact ⟨_, mean_rat hlast (h.mean_pos hne) (h.span_pos hnew hne) now⟩

/-- A rate that was created and saw an event has a positive mean and a positive horizon, so that its
reading never falls back to zero for want of a rate and never divides by zero. At a given clock
reading it is the mean, decayed by the time since the last event: the mean itself where no time went
by or the clock went backwards, and from there strictly falling, positive, and tending to zero. It
stays within the decay over the averaging period, and below the events over the idle time. -/
theorem mean_eq_decayed_of_create
    {periodUnit averagingPeriod created : Rat} {initialInterval : Option Rat}
    (hstart : create window periodUnit averagingPeriod initialInterval created = .ok start)
    (hne : times ≠ []) :
    ∃ (r : Rate Rat) (last horizon : Rat), start.incrementAll times = .ok r ∧
      times.getLast? = some last ∧
      0 < r.average.mean ∧
      r.horizon = .ok horizon ∧
      horizon = min averagingPeriod (times.length * periodUnit / r.average.mean) ∧
      0 < horizon ∧
      (∀ idle, 0 ≤ idle → horizon + idle ≠ 0) ∧
      (∀ now, r.mean now = .ok (decayed r.average.mean horizon (max 0 (now - last)))) ∧
      (∀ now, now ≤ last → r.mean now = .ok r.average.mean) ∧
      decayed r.average.mean horizon 0 = r.average.mean ∧
      StrictAntiOn (decayed r.average.mean horizon) (Set.Ici 0) ∧
      (∀ idle, 0 ≤ idle → 0 < decayed r.average.mean horizon idle) ∧
      (∀ idle, 0 < idle →
        decayed r.average.mean horizon idle ≤
          r.average.mean * averagingPeriod / (averagingPeriod + idle) ∧
        decayed r.average.mean horizon idle < times.length * periodUnit / idle) ∧
      Filter.Tendsto (decayed r.average.mean horizon) Filter.atTop (nhds 0) := by
  obtain ⟨hnew, hunit, hperiod, -, -⟩ := isNew_of_create hstart
  obtain ⟨r, hr, hfollows⟩ := hnew.incrementAll times
  obtain ⟨last, hlast⟩ := Option.isSome_iff_exists.mp (List.getLast?_isSome.mpr hne)
  have hmean := hfollows.mean_pos hne
  have hspan := hfollows.span_pos hnew hne
  have hread := mean_rat (hfollows.lastUpdate_eq.trans hlast) hmean hspan
  refine ⟨r, last, r.span, hr, hlast, hmean, horizon_rat hmean, ?_, hspan,
    fun idle hidle => (add_pos_of_pos_of_nonneg hspan hidle).ne', ?_, ?_, decayed_zero hspan,
    decayed_strictAntiOn hmean hspan, fun idle hidle => decayed_pos hmean hspan hidle, ?_,
    tendsto_decayed _ _⟩
  · rw [span, hfollows.averagingPeriod_eq, hfollows.periodUnit_eq, hfollows.count_eq, hunit,
      hperiod]
  · intro now
    have hidle : idle last now = max 0 (now - last) := Scalar.maximum_rat _ _
    rw [hread now, hidle]
  · intro now hnow
    have hidle : idle last now = 0 := by
      rw [idle, Scalar.maximum_rat]
      exact max_eq_left (by simpa using hnow)
    rw [hread now, hidle, decayed_zero hspan]
  · intro idle hidle
    have hcap : r.span ≤ averagingPeriod := by
      rw [← hperiod, ← hfollows.averagingPeriod_eq]
      exact min_le_left _ _
    have hevents : r.average.mean * r.span ≤ times.length * periodUnit := by
      have hle := mean_mul_span_le hmean
      rwa [hfollows.count_eq, hfollows.periodUnit_eq, hunit] at hle
    exact ⟨decayed_le_of_span_le hmean hspan hcap hidle,
      decayed_lt_of_mul_span_le hmean hspan hevents hidle⟩

/-- Two events a second apart, read two seconds after the last one: the events cover two seconds, so
the rate of one event per second has halved. -/
theorem mean_two_events :
    ∃ start r : Rate Rat, create 10 1 60 none 0 = .ok start ∧
      start.incrementAll [0, 1] = .ok r ∧ r.mean 3 = .ok (1 / 2) := by
  obtain ⟨start, hstart⟩ : ∃ start : Rate Rat, create 10 1 60 none 0 = .ok start := ⟨_, rfl⟩
  have hne : ([0, 1] : List Rat) ≠ [] := by decide
  obtain ⟨r, last, horizon, hr, hlast, -, -, hhorizon, -, -, hread, -⟩ :=
    mean_eq_decayed_of_create hstart hne
  have hmean : r.average.mean = 1 := by
    have hrun : (start.incrementAll [0, 1]).map (fun r => r.average.mean) = .ok 1 := by
      cases hstart
      decide +kernel
    rw [hr] at hrun
    simpa [Except.map] using hrun
  cases hlast
  refine ⟨start, r, hstart, hr, ?_⟩
  rw [hread, hhorizon, hmean, decayed]
  norm_num

end SendMeter.Rate
