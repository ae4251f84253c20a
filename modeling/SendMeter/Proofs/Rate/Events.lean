import SendMeter.Proofs.Average.Influence

namespace SendMeter.Rate

section Events

variable {α : Type} [Scalar α]

/-- The rate after events in turn, by their clock readings. -/
def incrementAll (r : Rate α) (times : List α) : Except ArithmeticError (Rate α) :=
  times.foldlM (fun r now => r.increment now) r

private theorem increment_of_none {r : Rate α} (h : r.average.lastUpdate = none) (now : α) :
    r.increment now = r.start now := by
  rw [increment, h]

theorem increment_of_some {r : Rate α} {last : α} (h : r.average.lastUpdate = some last)
    (now : α) : r.increment now = r.next last now := by
  rw [increment, h]

theorem incrementAll_concat {r s : Rate α} {times : List α} (hs : r.incrementAll times = .ok s)
    (now : α) : r.incrementAll (times ++ [now]) = s.increment now :=
  foldlM_concat_of_ok hs now

end Events

/-- The positive differences between events in turn. -/
def gaps (times : List Rat) : List Rat :=
  (List.zipWith (fun last now => now - last) times times.tail).filter fun gap => 0 < gap

private theorem zipWith_tail_concat {α β : Type} (f : α → α → β) (xs : List α) (y : α) :
    List.zipWith f (xs ++ [y]) (xs ++ [y]).tail =
      List.zipWith f xs xs.tail ++ (xs.getLast?.map fun x => f x y).toList := by
  induction xs with
  | nil => rfl
  | cons x xs ih =>
    cases xs with
    | nil => rfl
    | cons x' xs =>
      have htail := congrArg (f x x' :: ·) ih
      simpa using htail

theorem gaps_concat {times : List Rat} {last : Rat} (hlast : times.getLast? = some last)
    (now : Rat) :
    gaps (times ++ [now]) = gaps times ++ if 0 < now - last then [now - last] else [] := by
  unfold gaps
  rw [zipWith_tail_concat, hlast, List.filter_append]
  by_cases hgap : 0 < now - last
  · simp [hgap]
  · simp [hgap]

/-- A rate without events, with the settings that it is created with. -/
structure IsNew (window : Int) (r : Rate Rat) : Prop where
  window_pos : 1 ≤ window
  average_eq : r.average = Average.initial window
  periodUnit_pos : 0 < r.periodUnit
  averagingPeriod_pos : 0 < r.averagingPeriod
  initialInterval_pos : 0 < r.initialInterval
  firstUpdate_eq : r.firstUpdate = none
  intervals_eq : r.intervals = 0

variable {window : Int} {periodUnit averagingPeriod created : Rat} {initialInterval : Option Rat}

/-- What the settings of a rate that was created are, and that all of them are positive. -/
theorem isNew_of_create {r : Rate Rat}
    (h : create window periodUnit averagingPeriod initialInterval created = .ok r) :
    IsNew window r ∧ r.periodUnit = periodUnit ∧ r.averagingPeriod = averagingPeriod ∧
      r.initialInterval = initialInterval.getD periodUnit ∧ r.createdAt = created := by
  obtain ⟨average, haverage, hunit, hperiod, hinterval, rfl⟩ := create_eq_ok h
  have hwindow := Average.window_pos_of_create haverage
  have hinitial : average = Average.initial window := by
    rw [Average.create_rat hwindow] at haverage
    cases haverage
    rfl
  exact ⟨⟨hwindow, hinitial, not_le.mp hunit, not_le.mp hperiod, not_le.mp hinterval, rfl, rfl⟩,
    rfl, rfl, rfl, rfl⟩

/-- The rate that a first event is given. -/
def seed (r : Rate Rat) (first : Rat) : Rat :=
  r.periodUnit / r.firstInterval first

theorem firstInterval_rat (r : Rate Rat) (now : Rat) :
    r.firstInterval now =
      if 0 < now - r.createdAt then now - r.createdAt else r.initialInterval := by
  unfold firstInterval
  simp only [Scalar.zero_rat]
  by_cases helapsed : 0 < now - r.createdAt
  · rw [if_pos helapsed, if_neg (not_le.mpr helapsed)]
  · rw [if_neg helapsed, if_pos (not_lt.mp helapsed)]

theorem firstInterval_pos {r : Rate Rat} (h : 0 < r.initialInterval) (now : Rat) :
    0 < r.firstInterval now := by
  rw [firstInterval_rat]
  split
  · assumption
  · exact h

private theorem start_rat {r : Rate Rat} (h : 0 < r.initialInterval) (now : Rat) :
    r.start now = .ok { r with
      average := { r.average with
        count := 1, mean := r.seed now, variance := 0, lastUpdate := some now }
      firstUpdate := some now } := by
  rw [start, Scalar.divide_rat (firstInterval_pos h now).ne']
  rfl

private theorem next_rat {r : Rate Rat} (htuned : Average.Tuned window r.average) {last now : Rat}
    (hgap : 0 < now - last) :
    r.next last now = .ok { r with
      average := { r.average.fold (Average.sampleWeight window (r.intervals + 1))
          (r.periodUnit / (now - last)) with
        count := r.average.count + 1, lastUpdate := some now }
      intervals := r.intervals + 1 } := by
  have htuned' : Average.Tuned window
      { r.average with count := r.average.count + 1, lastUpdate := some now } :=
    ⟨htuned.alpha_eq, htuned.variance_nonneg⟩
  simp only [next, Scalar.zero_rat, if_pos hgap, Scalar.divide_rat hgap.ne', bind, Except.bind,
    Average.blend_rat htuned' _ (Nat.succ_ne_zero _)]
  rfl

/-- What a rate keeps of its creation and of events at given times, its moments aside. -/
structure Logs (start : Rate Rat) (times : List Rat) (r : Rate Rat) : Prop where
  periodUnit_eq : r.periodUnit = start.periodUnit
  averagingPeriod_eq : r.averagingPeriod = start.averagingPeriod
  createdAt_eq : r.createdAt = start.createdAt
  initialInterval_eq : r.initialInterval = start.initialInterval
  count_eq : r.average.count = times.length
  firstUpdate_eq : r.firstUpdate = times.head?
  lastUpdate_eq : r.average.lastUpdate = times.getLast?

/-- What is known of a rate after events at given times. The moments are those of the rates of the
gaps, once there is one; until then the rate is the seed. -/
structure Follows (window : Int) (start : Rate Rat) (times : List Rat) (r : Rate Rat) : Prop
    extends Logs start times r where
  tuned : Average.Tuned window r.average
  intervals_eq : r.intervals = (gaps times).length
  hasMoments : gaps times ≠ [] →
    Average.HasMoments window ((gaps times).map (start.periodUnit / ·)) r.average
  eq_seed : gaps times = [] → ∀ first, times.head? = some first →
    r.average.mean = start.seed first ∧ r.average.variance = 0
  mean_pos : times ≠ [] → 0 < r.average.mean

theorem IsNew.follows {start : Rate Rat} (h : IsNew window start) :
    Follows window start [] start where
  periodUnit_eq := rfl
  averagingPeriod_eq := rfl
  createdAt_eq := rfl
  initialInterval_eq := rfl
  count_eq := by rw [h.average_eq]; rfl
  firstUpdate_eq := h.firstUpdate_eq
  lastUpdate_eq := by rw [h.average_eq]; rfl
  tuned := h.average_eq ▸ Average.tuned_initial window
  intervals_eq := h.intervals_eq
  hasMoments := fun hne => absurd rfl hne
  eq_seed := by simp
  mean_pos := fun hne => absurd rfl hne

/-- An event that is not the first one leaves the creation and the first event as they were. -/
theorem Logs.concat {start r : Rate Rat} {times : List Rat} (h : Logs start times r)
    (hne : times ≠ []) {now : Rat} {average : Average Rat} (intervals : Nat)
    (hcount : average.count = r.average.count + 1) (hlast : average.lastUpdate = some now) :
    Logs start (times ++ [now]) { r with average, intervals } where
  periodUnit_eq := h.periodUnit_eq
  averagingPeriod_eq := h.averagingPeriod_eq
  createdAt_eq := h.createdAt_eq
  initialInterval_eq := h.initialInterval_eq
  count_eq := by rw [List.length_append, ← h.count_eq]; exact hcount
  firstUpdate_eq := by rw [List.head?_append_of_ne_nil _ hne]; exact h.firstUpdate_eq
  lastUpdate_eq := by rw [List.getLast?_concat]; exact hlast

/-- A positive value folded into a positive mean leaves it positive. -/
theorem fold_mean_pos {a : Average Rat} (hmean : 0 < a.mean) {weight value : Rat}
    (hweight : 0 < weight) (hle : weight ≤ 1) (hvalue : 0 < value) :
    0 < (a.fold weight value).mean := by
  have hkept : 0 ≤ (1 - weight) * a.mean := mul_nonneg (by linarith) hmean.le
  have hadded : 0 < weight * value := mul_pos hweight hvalue
  rw [Average.fold_mean]
  linarith

section Step

variable {start r : Rate Rat} {times : List Rat}

theorem IsNew.increment_first (hnew : IsNew window start) (h : Follows window start [] r)
    (now : Rat) : ∃ next, r.increment now = .ok next ∧ Follows window start [now] next := by
  have hlast : r.average.lastUpdate = none := h.lastUpdate_eq
  have hinterval : 0 < r.initialInterval := h.initialInterval_eq ▸ hnew.initialInterval_pos
  have hseed : r.seed now = start.seed now := by
    rw [seed, seed, firstInterval_rat, firstInterval_rat, h.periodUnit_eq, h.createdAt_eq,
      h.initialInterval_eq]
  have hpos : 0 < start.seed now :=
    div_pos hnew.periodUnit_pos (firstInterval_pos hnew.initialInterval_pos now)
  refine ⟨_, (increment_of_none hlast now).trans (start_rat hinterval now), ?_⟩
  refine ⟨⟨h.periodUnit_eq, h.averagingPeriod_eq, h.createdAt_eq, h.initialInterval_eq, rfl, rfl,
    rfl⟩, ⟨h.tuned.alpha_eq, le_refl 0⟩, h.intervals_eq, fun hne => absurd rfl hne, ?_,
    fun _ => hseed ▸ hpos⟩
  intro _ first hfirst
  cases hfirst
  exact ⟨hseed, rfl⟩

/-- An event after a gap folds the rate of the gap in. The first such rate has the whole weight,
which is what replaces the seed. -/
theorem Follows.increment_gap (hnew : IsNew window start) (h : Follows window start times r)
    {last now : Rat} (hlast : times.getLast? = some last) (hgap : 0 < now - last) :
    ∃ next, r.increment now = .ok next ∧ Follows window start (times ++ [now]) next := by
  have hne : times ≠ [] := by
    rintro rfl
    cases hlast
  have hgaps : gaps (times ++ [now]) = gaps times ++ [now - last] := by
    rw [gaps_concat hlast, if_pos hgap]
  have hvalue : 0 < start.periodUnit / (now - last) := div_pos hnew.periodUnit_pos hgap
  have hmean := fold_mean_pos (h.mean_pos hne)
    (Average.sampleWeight_pos hnew.window_pos (r.intervals + 1))
    (Average.sampleWeight_le_one hnew.window_pos _) hvalue
  have hmoments : Average.HasMoments window ((gaps times).map (start.periodUnit / ·) ++
      [start.periodUnit / (now - last)])
      (r.average.fold (Average.sampleWeight window (r.intervals + 1))
        (start.periodUnit / (now - last))) := by
    rw [h.intervals_eq]
    by_cases hnone : gaps times = []
    · rw [hnone]
      exact Average.hasMoments_fold_first hnew.window_pos _ _
    · have hfold := (h.hasMoments hnone).fold hnew.window_pos h.tuned.variance_nonneg
        (start.periodUnit / (now - last))
      rwa [List.length_map] at hfold
  have hlast' := h.lastUpdate_eq.trans hlast
  refine ⟨_, (increment_of_some hlast' now).trans (next_rat h.tuned hgap), ?_⟩
  refine ⟨h.toLogs.concat hne _ rfl rfl,
    ⟨h.tuned.alpha_eq, (h.tuned.fold _ _).variance_nonneg⟩, ?_, ?_, ?_, ?_⟩
  · rw [hgaps, List.length_append, ← h.intervals_eq]
    rfl
  · intro _
    rw [hgaps, List.map_append, h.periodUnit_eq]
    exact ⟨hmoments.mean_eq, hmoments.variance_eq⟩
  · intro hnone
    rw [hgaps] at hnone
    simp at hnone
  · intro _
    rw [h.periodUnit_eq]
    exact hmean

/-- An event without a gap only counts. -/
theorem Follows.increment_noGap (h : Follows window start times r) {last now : Rat}
    (hlast : times.getLast? = some last) (hgap : ¬ 0 < now - last) :
    ∃ next, r.increment now = .ok next ∧ Follows window start (times ++ [now]) next := by
  have hne : times ≠ [] := by
    rintro rfl
    cases hlast
  have hgaps : gaps (times ++ [now]) = gaps times := by
    rw [gaps_concat hlast, if_neg hgap, List.append_nil]
  have hlast' := h.lastUpdate_eq.trans hlast
  refine ⟨_, (increment_of_some hlast' now).trans (next_of_not_lt r hgap), ?_⟩
  refine ⟨h.toLogs.concat hne _ rfl rfl, ⟨h.tuned.alpha_eq, h.tuned.variance_nonneg⟩, ?_, ?_, ?_,
    fun _ => h.mean_pos hne⟩
  · rw [hgaps]
    exact h.intervals_eq
  · rw [hgaps]
    intro hsome
    have hmoments := h.hasMoments hsome
    exact ⟨hmoments.mean_eq, hmoments.variance_eq⟩
  · rw [hgaps, List.head?_append_of_ne_nil _ hne]
    exact h.eq_seed

/-- Every event is recorded, at whatever clock reading it comes. -/
theorem Follows.increment (hnew : IsNew window start) (h : Follows window start times r)
    (now : Rat) :
    ∃ next, r.increment now = .ok next ∧ Follows window start (times ++ [now]) next := by
  cases hlast : times.getLast? with
  | none =>
    obtain rfl := List.getLast?_eq_none_iff.mp hlast
    exact hnew.increment_first h now
  | some last =>
    by_cases hgap : 0 < now - last
    · exact h.increment_gap hnew hlast hgap
    · exact h.increment_noGap hlast hgap

end Step

theorem IsNew.incrementAll {start : Rate Rat} (hnew : IsNew window start) (times : List Rat) :
    ∃ r, start.incrementAll times = .ok r ∧ Follows window start times r := by
  induction times using List.reverseRecOn with
  | nil => exact ⟨start, rfl, hnew.follows⟩
  | append_singleton times now ih =>
    obtain ⟨r, hr, hfollows⟩ := ih
    obtain ⟨next, hnext, hfollows'⟩ := hfollows.increment hnew now
    exact ⟨next, (incrementAll_concat hr now).trans hnext, hfollows'⟩

end SendMeter.Rate
