import SendMeter.Proofs.Rate.Staleness

namespace SendMeter.Rate

/-- So many events, each of them a gap after the one before it. -/
def steady (first gap : Rat) (events : Nat) : List Rat :=
  (List.range events).map fun event : Nat => first + event * gap

section Events

variable {first gap : Rat}

private theorem length_steady (first gap : Rat) (events : Nat) :
    (steady first gap events).length = events := by
  rw [steady, List.length_map, List.length_range]

theorem steady_succ (first gap : Rat) (events : Nat) :
    steady first gap (events + 1) = steady first gap events ++ [first + events * gap] := by
  rw [steady, List.range_succ, List.map_append]
  rfl

theorem getLast?_steady_succ (first gap : Rat) (events : Nat) :
    (steady first gap (events + 1)).getLast? = some (first + events * gap) := by
  rw [steady_succ, List.getLast?_concat]

private theorem gaps_steady_succ (hgap : 0 < gap) (first : Rat) (events : Nat) :
    gaps (steady first gap (events + 1)) = List.replicate events gap := by
  induction events with
  | zero => rfl
  | succ events ih =>
    have hdiff : first + ((events + 1 : Nat) : Rat) * gap - (first + events * gap) = gap := by
      push_cast
      ring
    rw [steady_succ, gaps_concat (getLast?_steady_succ first gap events), ih, hdiff, if_pos hgap,
      List.replicate_succ']

end Events

variable {window : Int} {periodUnit averagingPeriod created gap : Rat}
variable {initialInterval : Option Rat} {start r : Rate Rat} {times : List Rat}

/-- Where all gaps are the same, their rate is all that the average has seen. -/
theorem Follows.mean_variance_of_forall_gap (hwindow : 1 ≤ window)
    (h : Follows window start times r) (hne : gaps times ≠ []) (heq : ∀ g ∈ gaps times, g = gap) :
    r.average.mean = start.periodUnit / gap ∧ r.average.variance = 0 := by
  refine (h.hasMoments hne).of_forall_eq hwindow (by simpa using hne) fun x hx => ?_
  obtain ⟨g, hg, rfl⟩ := List.mem_map.mp hx
  rw [heq g hg]

/-- At the rate of one gap, the events cover one gap each. -/
theorem Follows.span_of_mean (hunit : 0 < start.periodUnit) (hgap : 0 < gap)
    (h : Follows window start times r) (hmean : r.average.mean = start.periodUnit / gap) :
    r.span = min start.averagingPeriod (times.length * gap) := by
  have hspan : times.length * start.periodUnit / (start.periodUnit / gap) = times.length * gap := by
    field_simp
  rw [span, h.averagingPeriod_eq, h.count_eq, h.periodUnit_eq, hmean, hspan]

/-- Two events or more, each of them one gap after the one before it, the first of them at any time
before or after the creation. The smoothed rate is the period over the gap, without variance,
whatever the window, the averaging period and the initial interval are. After an idle time it reads
as decayed over the gaps that the events cover, one for each event, or over the averaging period if
this is shorter; in the latter case an averaging period of silence halves the reading. -/
theorem reading_of_steady_events
    (hstart : create window periodUnit averagingPeriod initialInterval created = .ok start)
    (hgap : 0 < gap) (first : Rat) {events : Nat} (hevents : 2 ≤ events) :
    ∃ (r : Rate Rat) (last : Rat), start.incrementAll (steady first gap events) = .ok r ∧
      (steady first gap events).getLast? = some last ∧
      r.average.mean = periodUnit / gap ∧
      r.average.variance = 0 ∧
      r.horizon = .ok (min averagingPeriod (events * gap)) ∧
      (∀ idle, 0 ≤ idle → r.mean (last + idle) =
        .ok (decayed (periodUnit / gap) (min averagingPeriod (events * gap)) idle)) ∧
      (averagingPeriod ≤ events * gap →
        r.mean (last + averagingPeriod) = .ok (periodUnit / gap / 2)) := by
  obtain ⟨hnew, hunit, hperiod, -, -⟩ := isNew_of_create hstart
  obtain ⟨later, rfl⟩ : ∃ later, events = later + 2 := ⟨events - 2, by omega⟩
  obtain ⟨r, hr, hfollows⟩ := hnew.incrementAll (steady first gap (later + 2))
  have hgaps := gaps_steady_succ hgap first (later + 1)
  have hsome : gaps (steady first gap (later + 2)) ≠ [] := by simp [hgaps]
  have hne : steady first gap (later + 2) ≠ [] := by simp [steady_succ]
  have hlast := getLast?_steady_succ first gap (later + 1)
  obtain ⟨hmean, hvariance⟩ := hfollows.mean_variance_of_forall_gap hnew.window_pos hsome
    fun g hg => List.eq_of_mem_replicate (hgaps ▸ hg)
  have hspan := hfollows.span_of_mean hnew.periodUnit_pos hgap hmean
  rw [hperiod, length_steady] at hspan
  rw [hunit] at hmean
  have hread {idle : Rat} (hidle : 0 ≤ idle) := hfollows.mean_add_idle hnew hlast hidle
  rw [hmean, hspan] at hread
  refine ⟨r, _, hr, hlast, hmean, hvariance, ?_, fun idle hidle => hread hidle, fun hlong => ?_⟩
  · rw [horizon_rat (hfollows.mean_pos hne), hspan]
  · have hperiod_pos : 0 < averagingPeriod := hperiod ▸ hnew.averagingPeriod_pos
    rw [hread hperiod_pos.le, min_eq_left hlong, decayed_span _ hperiod_pos]

/-- Two events two seconds apart, long after the creation. They cover four seconds, which is the
averaging period, and after four seconds the rate of one half has halved. -/
theorem reading_of_steady_events_two :
    ∃ start r : Rate Rat, create 10 1 4 none 0 = .ok start ∧
      start.incrementAll [100, 102] = .ok r ∧ r.average.mean = 1 / 2 ∧
      r.mean 106 = .ok (1 / 4) := by
  obtain ⟨start, hstart⟩ : ∃ start : Rate Rat, create 10 1 4 none 0 = .ok start := ⟨_, rfl⟩
  obtain ⟨r, last, hr, hlast, hmean, -, -, -, hhalf⟩ :=
    reading_of_steady_events hstart (show (0 : Rat) < 2 by decide) 100 (show 2 ≤ 2 by decide)
  have htimes : steady 100 2 2 = [100, 102] := by decide +kernel
  rw [htimes] at hr hlast
  cases hlast
  have hreading := hhalf (by norm_num)
  norm_num at hreading
  exact ⟨start, r, hstart, hr, hmean, hreading⟩

end SendMeter.Rate
