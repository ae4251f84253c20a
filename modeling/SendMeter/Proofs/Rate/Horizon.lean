import SendMeter.Proofs.Average.ColdStart
import SendMeter.Proofs.Rate.Staleness

namespace SendMeter.Rate

section Gaps

variable {times : List Rat} {first last : Rat}

theorem pos_of_mem_gaps {gap : Rat} (h : gap ∈ gaps times) : 0 < gap := by
  simpa using (List.mem_filter.mp h).2

/-- Where every event comes later than the one before it, each of them but the first has a gap. -/
theorem length_gaps (horder : times.Pairwise (· < ·)) : (gaps times).length = times.length - 1 := by
  induction times using List.reverseRecOn with
  | nil => rfl
  | append_singleton times now ih =>
    obtain ⟨hbefore, -, hnow⟩ := List.pairwise_append.mp horder
    cases hlast : times.getLast? with
    | none =>
      obtain rfl := List.getLast?_eq_none_iff.mp hlast
      rfl
    | some last =>
      have hmem := List.mem_of_getLast? hlast
      have hlength := List.length_pos_of_mem hmem
      have hgap : 0 < now - last := sub_pos.mpr (hnow last hmem now (by simp))
      rw [gaps_concat hlast, if_pos hgap, List.length_append, ih hbefore]
      simp only [List.length_append, List.length_singleton]
      omega

/-- The gaps between events in order add up to the time from the first event to the last one. -/
theorem sum_gaps (horder : times.Pairwise (· ≤ ·)) (hfirst : times.head? = some first)
    (hlast : times.getLast? = some last) : (gaps times).sum = last - first := by
  induction times using List.reverseRecOn generalizing last with
  | nil => cases hlast
  | append_singleton times now ih =>
    obtain ⟨hbefore, -, hnow⟩ := List.pairwise_append.mp horder
    rw [List.getLast?_concat] at hlast
    cases hlast
    cases hprevious : times.getLast? with
    | none =>
      obtain rfl := List.getLast?_eq_none_iff.mp hprevious
      cases hfirst
      exact (sub_self _).symm
    | some previous =>
      have hmem := List.mem_of_getLast? hprevious
      rw [List.head?_append_of_ne_nil _ (List.ne_nil_of_mem hmem)] at hfirst
      have hsum := ih hbefore hfirst hprevious
      have hle : previous ≤ now := hnow previous hmem now (by simp)
      rw [gaps_concat hprevious, List.sum_append, hsum]
      split
      · simp
      · rw [List.sum_nil]
        linarith

end Gaps

/-- The intervals that a rate is the rate of: the gaps between the events or, before there is one,
the time that the first event took to arrive. -/
def measured (created first : Rat) (times : List Rat) : List Rat :=
  if gaps times = [] then [first - created] else gaps times

section Measured

variable {created first : Rat} {times : List Rat}

theorem measured_ne_nil (created first : Rat) (times : List Rat) :
    measured created first times ≠ [] := by
  rw [measured]
  split
  · simp
  · assumption

theorem pos_of_mem_measured (hafter : created < first) (times : List Rat) :
    ∀ interval ∈ measured created first times, 0 < interval := by
  intro interval hmem
  rw [measured] at hmem
  split at hmem
  · rw [List.mem_singleton.mp hmem]
    exact sub_pos.mpr hafter
  · exact pos_of_mem_gaps hmem

end Measured

variable {window : Int} {periodUnit averagingPeriod created : Rat} {initialInterval : Option Rat}
variable {start r : Rate Rat} {times : List Rat} {first last : Rat}

/-- The smoothed rate of the intervals. -/
theorem Follows.mean_eq_decayedSum (hwindow : 1 ≤ window) (h : Follows window start times r)
    (hfirst : times.head? = some first) (hafter : start.createdAt < first) :
    r.average.mean = start.periodUnit *
      Average.decayedSum window (measured start.createdAt first times) fun interval =>
        1 / interval := by
  rw [← Average.decayedSum_mul_left, measured]
  split
  next hnone =>
    have hinterval : start.firstInterval first = first - start.createdAt := by
      rw [firstInterval_rat, if_pos (sub_pos.mpr hafter)]
    rw [(h.eq_seed hnone first hfirst).1, seed, hinterval]
    refine (Average.decayedSum_of_forall_eq hwindow (by simp) fun x hx => ?_).symm
    rw [List.mem_singleton.mp hx, mul_one_div]
  next hsome =>
    rw [(h.hasMoments hsome).mean_eq, Average.decayedSum_values_map]
    simp only [mul_one_div]

/-- The time that the events cover, one smoothed interval for each of them. -/
theorem Follows.span_eq_div_decayedSum (hnew : IsNew window start)
    (h : Follows window start times r) (hfirst : times.head? = some first)
    (hafter : start.createdAt < first) :
    r.span = min start.averagingPeriod (times.length /
      Average.decayedSum window (measured start.createdAt first times) fun interval =>
        1 / interval) := by
  rw [span, h.averagingPeriod_eq, h.count_eq, h.periodUnit_eq,
    h.mean_eq_decayedSum hnew.window_pos hfirst hafter, mul_comm,
    mul_div_mul_left _ _ hnew.periodUnit_pos.ne']

/-- A horizon is within a time exactly if the averaging period is, or if the events are no more than
the intervals fit into this time. -/
theorem Follows.span_le_iff (hnew : IsNew window start) (h : Follows window start times r)
    (hfirst : times.head? = some first) (hafter : start.createdAt < first) (elapsed : Rat) :
    r.span ≤ elapsed ↔ start.averagingPeriod ≤ elapsed ∨
      times.length ≤ Average.decayedSum window (measured start.createdAt first times)
        fun interval => elapsed / interval := by
  have hrate : 0 < Average.decayedSum window (measured start.createdAt first times)
      fun interval => 1 / interval :=
    Average.decayedSum_pos hnew.window_pos (measured_ne_nil _ _ _) fun interval hmem =>
      one_div_pos.mpr (pos_of_mem_measured hafter times interval hmem)
  rw [h.span_eq_div_decayedSum hnew hfirst hafter, min_le_iff, div_le_iff₀ hrate,
    ← Average.decayedSum_mul_left]
  simp only [mul_one_div]

/-- The events cover at most one interval each, as the intervals are on average. -/
theorem Follows.span_le (hnew : IsNew window start) (h : Follows window start times r)
    (hfirst : times.head? = some first) (hafter : start.createdAt < first) :
    r.span ≤ times.length * Average.decayedSum window (measured start.createdAt first times)
      fun interval => interval := by
  have hne := measured_ne_nil start.createdAt first times
  have hpos := pos_of_mem_measured hafter times
  have hmean := Average.decayedSum_pos hnew.window_pos hne (f := fun interval => interval) hpos
  have hharmonic := Average.one_div_decayedSum_le hnew.window_pos hne hpos
  have hrate := (one_div_pos.mpr hmean).trans_le hharmonic
  rw [h.span_eq_div_decayedSum hnew hfirst hafter, ← mul_one_div]
  exact (min_le_right _ _).trans
    (mul_le_mul_of_nonneg_left ((one_div_le hmean hrate).mp hharmonic) (Nat.cast_nonneg _))

/-- While the average is cold, the intervals count alike. Then a first interval that is at least
their mean makes up for the event that has no gap. -/
theorem Follows.span_le_of_cold (hnew : IsNew window start) (h : Follows window start times r)
    (hfirst : times.head? = some first) (hlast : times.getLast? = some last)
    (hafter : start.createdAt < first) (horder : times.Pairwise (· < ·))
    (hcold : 2 * (gaps times).length ≤ window + 1)
    (hlate : last - first ≤ (gaps times).length * (first - start.createdAt)) :
    r.span ≤ last - start.createdAt := by
  have hlength := length_gaps horder
  have hsum := sum_gaps (horder.imp le_of_lt) hfirst hlast
  have hcount : times.length = (gaps times).length + 1 := by
    have hpos := List.length_pos_of_mem (List.mem_of_getLast? hlast)
    omega
  refine (h.span_le hnew hfirst hafter).trans ?_
  by_cases hnone : gaps times = []
  · have hmean : Average.decayedSum window [first - start.createdAt] (fun interval => interval) =
        first - start.createdAt :=
      Average.decayedSum_of_forall_eq hnew.window_pos (by simp) (by simp)
    rw [hnone, List.sum_nil] at hsum
    rw [measured, if_pos hnone, hmean, hcount, hnone]
    simp only [List.length_nil, Nat.zero_add, Nat.cast_one, one_mul]
    linarith
  · have hgaps : (0 : Rat) < (gaps times).length := by
      exact_mod_cast List.length_pos_iff.mpr hnone
    rw [measured, if_neg hnone, Average.decayedSum_of_cold hcold, List.map_id', hsum, hcount,
      Nat.cast_succ, ← mul_div_assoc, div_le_iff₀ hgaps]
    linarith

/-- Events at any clock readings, the first of them after the creation. The horizon stays within the
time from the creation to the last event if and only if the averaging period does, or the events are
no more than their intervals fit into this time, which is a mean under the influences that the
intervals have on the rate. It is at most one interval for each event, as the intervals are on
average. As long as the average is cold, no two events come together and the first event takes at
least as long as the gaps do on average, it stays within this time. -/
theorem horizon_le_elapsed_iff
    (hstart : create window periodUnit averagingPeriod initialInterval created = .ok start)
    (hfirst : times.head? = some first) (hlast : times.getLast? = some last)
    (hafter : created < first) :
    ∃ (r : Rate Rat) (horizon : Rat), start.incrementAll times = .ok r ∧
      r.average.lastUpdate = some last ∧
      r.horizon = .ok horizon ∧
      horizon = min averagingPeriod (times.length * periodUnit / r.average.mean) ∧
      (horizon ≤ last - created ↔ averagingPeriod ≤ last - created ∨
        times.length ≤ Average.decayedSum window (measured created first times)
          fun interval => (last - created) / interval) ∧
      horizon ≤ times.length * Average.decayedSum window (measured created first times)
        (fun interval => interval) ∧
      (times.Pairwise (· < ·) → 2 * (gaps times).length ≤ window + 1 →
        last - first ≤ (gaps times).length * (first - created) → horizon ≤ last - created) := by
  obtain ⟨hnew, hunit, hperiod, -, hcreated⟩ := isNew_of_create hstart
  obtain ⟨r, hr, hfollows⟩ := hnew.incrementAll times
  subst hcreated
  have hne : times ≠ [] := List.ne_nil_of_mem (List.mem_of_getLast? hlast)
  refine ⟨r, r.span, hr, hfollows.lastUpdate_eq.trans hlast,
    horizon_rat (hfollows.mean_pos hne), ?_, ?_, hfollows.span_le hnew hfirst hafter,
    hfollows.span_le_of_cold hnew hfirst hlast hafter⟩
  · rw [span, hfollows.averagingPeriod_eq, hfollows.count_eq, hfollows.periodUnit_eq, hunit,
      hperiod]
  · rw [← hperiod]
    exact hfollows.span_le_iff hnew hfirst hafter _

/-- Events at 3, 4, 6 and 6. The gaps of one second and of two fit six times and three times into
the six seconds, which is enough for four events. -/
theorem horizon_le_elapsed_iff_four_events :
    ∃ start r : Rate Rat, create 10 1 60 none 0 = .ok start ∧
      start.incrementAll [3, 4, 6, 6] = .ok r ∧ r.horizon = .ok (16 / 3) ∧
      (16 / 3 : Rat) ≤ 6 - 0 := by
  obtain ⟨start, hstart⟩ : ∃ start : Rate Rat, create 10 1 60 none 0 = .ok start := ⟨_, rfl⟩
  have hfirst : ([3, 4, 6, 6] : List Rat).head? = some 3 := rfl
  have hlast : ([3, 4, 6, 6] : List Rat).getLast? = some 6 := rfl
  obtain ⟨r, horizon, hr, -, hhorizon, heq, hiff, -⟩ :=
    horizon_le_elapsed_iff hstart hfirst hlast (show (0 : Rat) < 3 by norm_num)
  have hmean : r.average.mean = 3 / 4 := by
    have hrun : (start.incrementAll [3, 4, 6, 6]).map (fun r => r.average.mean) = .ok (3 / 4) := by
      cases hstart
      decide +kernel
    rw [hr] at hrun
    simpa [Except.map] using hrun
  have hvalue : horizon = 16 / 3 := by
    rw [heq, hmean]
    norm_num
  subst hvalue
  refine ⟨start, r, hstart, hr, hhorizon, hiff.mpr (.inr ?_)⟩
  decide +kernel

/-- Events at 2 and at 6. At one gap of four seconds for each of them they cover eight seconds, two
more than have gone by since the creation. -/
theorem horizon_not_le_elapsed :
    ¬ ∀ (window : Int) (periodUnit averagingPeriod created : Rat) (initialInterval : Option Rat)
      (start r : Rate Rat) (times : List Rat) (first last horizon : Rat),
      create window periodUnit averagingPeriod initialInterval created = .ok start →
      times.Pairwise (· ≤ ·) → times.head? = some first → times.getLast? = some last →
      created < first → start.incrementAll times = .ok r → r.horizon = .ok horizon →
      horizon ≤ last - created := by
  intro h
  obtain ⟨start, hstart⟩ : ∃ start : Rate Rat, create 10 1 60 none 0 = .ok start := ⟨_, rfl⟩
  obtain ⟨r, hr, -⟩ := (isNew_of_create hstart).1.incrementAll [2, 6]
  have hhorizon : (start.incrementAll [2, 6]).bind horizon = .ok 8 := by
    cases hstart
    decide +kernel
  rw [hr] at hhorizon
  have hle := h 10 1 60 0 none start r [2, 6] 2 6 8 hstart (by decide +kernel) rfl rfl
    (by norm_num) hr hhorizon
  norm_num at hle

end SendMeter.Rate
