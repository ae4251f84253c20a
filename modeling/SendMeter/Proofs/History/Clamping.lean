import SendMeter.Proofs.Average.Influence

namespace SendMeter.Durations

section Run

variable {α : Type} [Scalar α]

/-- The durations after samples in turn, each of them with its clock reading. -/
def appendAll (d : Durations α) (samples : List (α × α)) : Except ArithmeticError (Durations α) :=
  samples.foldlM (fun d sample => d.append sample.1 sample.2) d

theorem appendAll_concat {d e : Durations α} {samples : List (α × α)}
    (he : d.appendAll samples = .ok e) (value now : α) :
    d.appendAll (samples ++ [(value, now)]) = e.append value now :=
  foldlM_concat_of_ok he (value, now)

end Run

variable {window : Int}

/-- An average with the extremes of some values beside it. -/
def withExtremes (a : Average Rat) (values : List Rat) : Durations Rat :=
  { average := a, shortest := values.min?, longest := values.max? }

theorem create_rat (hwindow : 1 ≤ window) :
    (create window : Except (HistoryError Rat) (Durations Rat)) =
      .ok (withExtremes (Average.initial window) []) := by
  rw [create, Average.create_rat hwindow]
  rfl

theorem min?_concat (values : List Rat) (value : Rat) :
    (values ++ [value]).min? = some (lowered values.min? value) := by
  cases values with
  | nil => rfl
  | cons first values => simp [List.min?, lowered, List.foldl_append]

theorem max?_concat (values : List Rat) (value : Rat) :
    (values ++ [value]).max? = some (raised values.max? value) := by
  cases values with
  | nil => rfl
  | cons first values => simp [List.max?, raised, List.foldl_append]

private theorem clamp_of_le {low high mean : Rat} (hlow : low ≤ mean) (hhigh : mean ≤ high) :
    clamp low high mean = mean := by
  rw [clamp, Scalar.maximum_rat, Scalar.minimum_rat, max_eq_left hlow, min_eq_left hhigh]

/-- The mean of samples lies between their extremes. -/
theorem clamp_mean (hwindow : 1 ≤ window) {values : List Rat} {value : Rat} {a : Average Rat}
    (h : Average.HasMoments window (values ++ [value]) a) :
    clamp (lowered values.min? value) (raised values.max? value) a.mean = a.mean := by
  have hne : values ++ [value] ≠ [] := by simp
  obtain ⟨-, hlow⟩ := List.min?_eq_some_iff.mp (min?_concat values value)
  obtain ⟨-, hhigh⟩ := List.max?_eq_some_iff.mp (max?_concat values value)
  exact clamp_of_le (h.le_mean hwindow hne hlow) (h.mean_le hwindow hne hhigh)

/-- One more sample goes into the average as if it were alone, and into the extremes. -/
theorem append_withExtremes (hwindow : 1 ≤ window) {values : List Rat} {value now : Rat}
    {a b : Average Rat} (hb : a.append value now = .ok b)
    (h : Average.HasMoments window (values ++ [value]) b) :
    (withExtremes a values).append value now = .ok (withExtremes b (values ++ [value])) := by
  have hclamp := clamp_mean hwindow h
  simp only [append, withExtremes, hb, min?_concat, max?_concat]
  simp only [bind, Except.bind, hclamp]
  rfl

/-- Durations follow the average of their samples, with the extremes beside it. -/
theorem appendAll_withExtremes (hwindow : 1 ≤ window) {samples : List (Rat × Rat)}
    {a : Average Rat} (ha : (Average.initial window).appendAll samples = .ok a) :
    (withExtremes (Average.initial window) []).appendAll samples =
      .ok (withExtremes a (samples.map (·.1))) := by
  induction samples using List.reverseRecOn generalizing a with
  | nil =>
    cases ha
    rfl
  | append_singleton samples sample ih =>
    obtain ⟨b, hb, -⟩ := Average.exists_hasMoments hwindow samples
    have hba : b.append sample.1 sample.2 = .ok a :=
      (Average.appendAll_concat hb sample.1 sample.2).symm.trans ha
    have hmoments := Average.hasMoments_of_appendAll hwindow ha
    rw [List.map_append, List.map_singleton] at hmoments ⊢
    rw [← append_withExtremes hwindow hba hmoments]
    exact appendAll_concat (ih hb) sample.1 sample.2

theorem isLeast_minimum {a : Average Rat} {values : List Rat} (hcount : a.count ≠ 0)
    (hne : values ≠ []) : IsLeast {x | x ∈ values} (withExtremes a values).minimum := by
  obtain ⟨low, hlow⟩ := Option.ne_none_iff_exists'.mp (List.min?_eq_none_iff.not.mpr hne)
  have hminimum : (withExtremes a values).minimum = low := by
    simp [minimum, withExtremes, hcount, hlow]
  rw [hminimum]
  exact List.min?_eq_some_iff.mp hlow

theorem isGreatest_maximum {a : Average Rat} {values : List Rat} (hcount : a.count ≠ 0)
    (hne : values ≠ []) : IsGreatest {x | x ∈ values} (withExtremes a values).maximum := by
  obtain ⟨high, hhigh⟩ := Option.ne_none_iff_exists'.mp (List.max?_eq_none_iff.not.mpr hne)
  have hmaximum : (withExtremes a values).maximum = high := by
    simp [maximum, withExtremes, hcount, hhigh]
  rw [hmaximum]
  exact List.max?_eq_some_iff.mp hhigh

/-- After any samples, durations hold the average that has recorded the same samples at the same
clock readings, with its count, mean and variance; the clamp has changed no mean on the way there.
The shortest and the longest duration are the least and the greatest sample, and the mean is between
them. -/
theorem average_with_exact_extremes (hwindow : 1 ≤ window) {samples : List (Rat × Rat)}
    (hne : samples ≠ []) :
    ∃ (start d : Durations Rat) (empty a : Average Rat), create window = .ok start ∧
      Average.create window = .ok empty ∧ start.appendAll samples = .ok d ∧
      empty.appendAll samples = .ok a ∧ d.average = a ∧
      IsLeast {x | x ∈ samples.map (·.1)} d.minimum ∧
      IsGreatest {x | x ∈ samples.map (·.1)} d.maximum ∧
      d.minimum ≤ d.average.mean ∧ d.average.mean ≤ d.maximum ∧
      ∀ before value now, ∃ (b : Durations Rat) (average : Average Rat),
        start.appendAll before = .ok b ∧ b.average.append value now = .ok average ∧
        clamp (lowered b.shortest value) (raised b.longest value) average.mean = average.mean := by
  obtain ⟨a, ha, -, hcount, hmoments⟩ := Average.exists_hasMoments hwindow samples
  have hpos : a.count ≠ 0 := by
    rw [hcount]
    exact (List.length_pos_iff.mpr hne).ne'
  have hvalues : samples.map (·.1) ≠ [] := by simpa using hne
  have hleast := isLeast_minimum hpos hvalues
  have hgreatest := isGreatest_maximum hpos hvalues
  refine ⟨_, _, _, a, create_rat hwindow, Average.create_rat hwindow,
    appendAll_withExtremes hwindow ha, ha, rfl, hleast, hgreatest, ?_, ?_,
    fun before value now => ?_⟩
  · exact hmoments.le_mean hwindow hvalues fun x hx => hleast.2 hx
  · exact hmoments.mean_le hwindow hvalues fun x hx => hgreatest.2 hx
  · obtain ⟨b, hb, -⟩ := Average.exists_hasMoments hwindow before
    obtain ⟨c, hc, -, -, hmoments⟩ := Average.exists_hasMoments hwindow (before ++ [(value, now)])
    rw [List.map_append, List.map_singleton] at hmoments
    exact ⟨_, c, appendAll_withExtremes hwindow hb,
      (Average.appendAll_concat hb value now).symm.trans hc, clamp_mean hwindow hmoments⟩

/-- Three durations under a window of one: the mean is the last of them, the extremes are the other
two. -/
theorem average_with_exact_extremes_three_durations :
    ∃ start d : Durations Rat, create 1 = .ok start ∧
      start.appendAll [(5, 0), (1, 1), (3, 2)] = .ok d ∧
      d.minimum = 1 ∧ d.average.mean = 3 ∧ d.maximum = 5 := by
  obtain ⟨start, d, empty, a, hstart, hempty, hd, ha, haverage, hleast, hgreatest, -⟩ :=
    average_with_exact_extremes (show (1 : Int) ≤ 1 by decide)
      (show ([(5, 0), (1, 1), (3, 2)] : List (Rat × Rat)) ≠ [] by decide)
  have hone : IsLeast {x | x ∈ ([5, 1, 3] : List Rat)} 1 := List.min?_eq_some_iff.mp rfl
  have hfive : IsGreatest {x | x ∈ ([5, 1, 3] : List Rat)} 5 := List.max?_eq_some_iff.mp rfl
  have hmean : a.mean = 3 := by
    cases hempty
    cases ha
    decide +kernel
  refine ⟨start, d, hstart, hd, hleast.unique hone, ?_, hgreatest.unique hfive⟩
  rw [haverage, hmean]

end SendMeter.Durations
