import SendMeter.Proofs.Average.ColdStart

namespace SendMeter.Outcomes

section Run

variable {α : Type} [Scalar α]

/-- The outcomes after results in turn, each of them with its clock reading. -/
def recordAll (o : Outcomes α) (results : List (Bool × α)) :
    Except ArithmeticError (Outcomes α) :=
  results.foldlM (fun o result => o.record result.1 result.2) o

theorem recordAll_concat {o p : Outcomes α} {results : List (Bool × α)}
    (hp : o.recordAll results = .ok p) (success : Bool) (now : α) :
    o.recordAll (results ++ [(success, now)]) = p.record success now :=
  foldlM_concat_of_ok hp (success, now)

/-- Results are recorded as samples of an average. -/
theorem recordAll_of_appendAll {o : Outcomes α} {a : Average α} {results : List (Bool × α)}
    (ha : o.average.appendAll (results.map fun result => (valueOf result.1, result.2)) = .ok a) :
    o.recordAll results = .ok { average := a } := by
  induction results generalizing o with
  | nil =>
    cases ha
    rfl
  | cons result results ih =>
    obtain ⟨b, hb, ha⟩ := bind_eq_ok_iff.mp ha
    exact bind_eq_ok_iff.mpr ⟨{ average := b }, bind_eq_ok_iff.mpr ⟨b, hb, rfl⟩, ih ha⟩

end Run

@[simp] theorem valueOf_true : (valueOf true : Rat) = 1 := rfl

@[simp] theorem valueOf_false : (valueOf false : Rat) = 0 := rfl

variable {window : Int}

/-- The outcomes without results, as they are created over the rationals. -/
def initial (window : Int) : Outcomes Rat := { average := Average.initial window }

theorem create_rat (hwindow : 1 ≤ window) :
    (create window : Except (HistoryError Rat) (Outcomes Rat)) = .ok (initial window) := by
  rw [create, Average.create_rat hwindow]
  rfl

theorem eq_initial_of_create {o : Outcomes Rat} (h : create window = .ok o) :
    1 ≤ window ∧ o = initial window := by
  obtain ⟨average, haverage, -⟩ := map_eq_ok_iff.mp h
  have hwindow := Average.window_pos_of_create haverage
  exact ⟨hwindow, Except.ok.inj (h.symm.trans (create_rat hwindow))⟩

/-- Outcomes have counted some results, and their moments are those of the values of these. -/
structure HasResults (window : Int) (results : List Bool) (o : Outcomes Rat) : Prop where
  count_eq : o.average.count = results.length
  hasMoments : Average.HasMoments window (results.map valueOf) o.average

theorem exists_hasResults (hwindow : 1 ≤ window) (results : List (Bool × Rat)) :
    ∃ o, (initial window).recordAll results = .ok o ∧
      HasResults window (results.map (·.1)) o := by
  obtain ⟨a, ha, -, hcount, hmoments⟩ := Average.exists_hasMoments hwindow
    (results.map fun result => (valueOf result.1, result.2))
  refine ⟨{ average := a }, recordAll_of_appendAll ha, ?_, ?_⟩
  · rwa [List.length_map] at hcount ⊢
  · rwa [List.map_map] at hmoments ⊢

theorem hasResults_of_recordAll (hwindow : 1 ≤ window) {results : List (Bool × Rat)}
    {o : Outcomes Rat} (ho : (initial window).recordAll results = .ok o) :
    HasResults window (results.map (·.1)) o := by
  obtain ⟨p, hp, hresults⟩ := exists_hasResults hwindow results
  obtain rfl : p = o := Except.ok.inj (hp.symm.trans ho)
  exact hresults

variable {results : List Bool} {o : Outcomes Rat}

theorem eq_zero_or_one_of_mem {x : Rat} (hx : x ∈ results.map valueOf) : x = 0 ∨ x = 1 := by
  obtain ⟨success, -, rfl⟩ := List.mem_map.mp hx
  cases success with
  | true => exact .inr rfl
  | false => exact .inl rfl

theorem bounds_of_mem {x : Rat} (hx : x ∈ results.map valueOf) : 0 ≤ x ∧ x ≤ 1 := by
  obtain rfl | rfl := eq_zero_or_one_of_mem hx
  · exact ⟨le_refl 0, zero_le_one⟩
  · exact ⟨zero_le_one, le_refl 1⟩

/-- The mean of the squares is the mean itself. -/
theorem HasResults.variance_eq (h : HasResults window results o) :
    o.average.variance = o.average.mean * (1 - o.average.mean) := by
  have hsquares : Average.decayedSum window (results.map valueOf) (fun x => x ^ 2) =
      o.average.mean := by
    rw [h.hasMoments.mean_eq]
    refine Average.decayedSum_congr fun x hx => ?_
    obtain rfl | rfl := eq_zero_or_one_of_mem hx
    · norm_num
    · norm_num
  rw [h.hasMoments.variance_eq, hsquares]
  ring

/-- After any results, the variance is the share of the successes times that of the failures. It is
at most a quarter, and there is none exactly if one of the two shares is zero. -/
theorem variance_eq_share_mul_share (hwindow : 1 ≤ window) (results : List (Bool × Rat)) :
    ∃ start o : Outcomes Rat, create window = .ok start ∧ start.recordAll results = .ok o ∧
      o.average.variance = o.average.mean * (1 - o.average.mean) ∧
      o.average.variance ≤ 1 / 4 ∧
      (o.average.variance = 0 ↔ o.average.mean = 0 ∨ o.average.mean = 1) := by
  obtain ⟨o, ho, hresults⟩ := exists_hasResults hwindow results
  have hvariance := hresults.variance_eq
  refine ⟨initial window, o, create_rat hwindow, ho, hvariance, ?_, ?_⟩
  · have hsquare := sq_nonneg (o.average.mean - 1 / 2)
    rw [hvariance]
    linarith
  · rw [hvariance, mul_eq_zero, sub_eq_zero, eq_comm (a := (1 : Rat))]

theorem variance_eq_share_mul_share_three_results :
    ∃ start o : Outcomes Rat, create 10 = .ok start ∧
      start.recordAll [(true, 0), (false, 1), (true, 2)] = .ok o ∧
      o.average.mean = 2 / 3 ∧ o.average.variance = 2 / 9 := by
  obtain ⟨start, o, hstart, ho, hvariance, -⟩ :=
    variance_eq_share_mul_share (show (1 : Int) ≤ 10 by decide) [(true, 0), (false, 1), (true, 2)]
  have hmean : o.average.mean = 2 / 3 := by
    cases hstart
    cases ho
    decide +kernel
  refine ⟨start, o, hstart, ho, hmean, ?_⟩
  rw [hvariance, hmean]
  norm_num

namespace HasResults

theorem errorRatio_nil (h : HasResults window [] o) : o.errorRatio = 0 :=
  if_pos h.count_eq

theorem errorRatio_eq_one_sub (h : HasResults window results o) (hne : results ≠ []) :
    o.errorRatio = 1 - o.average.mean := by
  have hcount : o.average.count ≠ 0 := by
    rw [h.count_eq]
    exact (List.length_pos_iff.mpr hne).ne'
  exact if_neg hcount

/-- The error ratio is the share of the failures. -/
theorem errorRatio_eq (hwindow : 1 ≤ window) (h : HasResults window results o)
    (hne : results ≠ []) :
    o.errorRatio = Average.decayedSum window (results.map valueOf) (fun x => 1 - x) := by
  have hne' : results.map (valueOf : Bool → Rat) ≠ [] := by simpa using hne
  rw [h.errorRatio_eq_one_sub hne, Average.decayedSum_sub,
    Average.decayedSum_const hwindow hne', h.hasMoments.mean_eq]

theorem errorRatio_bounds (hwindow : 1 ≤ window) (h : HasResults window results o) :
    0 ≤ o.errorRatio ∧ o.errorRatio ≤ 1 := by
  by_cases hempty : results = []
  · subst results
    rw [h.errorRatio_nil]
    exact ⟨le_refl 0, zero_le_one⟩
  · have hne : results.map (valueOf : Bool → Rat) ≠ [] := by simpa using hempty
    have hlow : 0 ≤ o.average.mean :=
      h.hasMoments.le_mean hwindow hne fun x hx => (bounds_of_mem hx).1
    have hhigh : o.average.mean ≤ 1 :=
      h.hasMoments.mean_le hwindow hne fun x hx => (bounds_of_mem hx).2
    rw [h.errorRatio_eq_one_sub hempty]
    exact ⟨sub_nonneg.mpr hhigh, sub_le_self 1 hlow⟩

/-- From a window of two on, no failure is lost. -/
theorem errorRatio_eq_zero_iff (hwindow : 2 ≤ window) (h : HasResults window results o)
    (hne : results ≠ []) : o.errorRatio = 0 ↔ ∀ success ∈ results, success = true := by
  have hnonneg : ∀ x ∈ results.map (valueOf : Bool → Rat), 0 ≤ 1 - x := fun x hx =>
    sub_nonneg.mpr (bounds_of_mem hx).2
  rw [h.errorRatio_eq (by omega) hne, Average.decayedSum_eq_zero_iff hwindow hnonneg,
    List.forall_mem_map]
  refine forall₂_congr fun success _ => ?_
  cases success <;> simp

/-- From a window of two on, no success is lost. -/
theorem errorRatio_eq_one_iff (hwindow : 2 ≤ window) (h : HasResults window results o)
    (hne : results ≠ []) : o.errorRatio = 1 ↔ ∀ success ∈ results, success = false := by
  have hnonneg : ∀ x ∈ results.map (valueOf : Bool → Rat), 0 ≤ x := fun x hx =>
    (bounds_of_mem hx).1
  rw [h.errorRatio_eq_one_sub hne, sub_eq_self, h.hasMoments.mean_eq,
    Average.decayedSum_eq_zero_iff hwindow hnonneg, List.forall_mem_map]
  refine forall₂_congr fun success _ => ?_
  cases success <;> simp

/-- Under a window of one, every result has the whole weight and takes it from all before it. -/
theorem errorRatio_of_window_one (h : HasResults 1 results o) {last : Bool}
    (hlast : results.getLast? = some last) : o.errorRatio = if last then 0 else 1 := by
  obtain ⟨before, rfl⟩ := List.getLast?_eq_some_iff.mp hlast
  have hweight (samples : Nat) : Average.sampleWeight 1 (samples + 1) = 1 := by
    rw [Average.sampleWeight_of_warm (le_refl 1) (by push_cast; omega)]
    norm_num
  rw [h.errorRatio_eq_one_sub (by simp), h.hasMoments.mean_eq, List.map_append, List.map_singleton,
    Average.decayedSum_concat, hweight]
  cases last <;> simp

end HasResults

private theorem sum_failures (results : List Bool) :
    ((results.map valueOf).map fun x : Rat => 1 - x).sum = results.count false := by
  induction results with
  | nil => rfl
  | cons success results ih =>
    rw [List.map_cons, List.map_cons, List.sum_cons, ih, List.count_cons]
    cases success with
    | true => simp
    | false =>
      push_cast
      simp
      ring

/-- While the average is cold, each result counts the same. -/
theorem HasResults.errorRatio_of_cold (hwindow : 1 ≤ window) (h : HasResults window results o)
    (hne : results ≠ []) (hcold : 2 * results.length ≤ window + 1) :
    o.errorRatio = results.count false / results.length := by
  rw [h.errorRatio_eq hwindow hne, Average.decayedSum_of_cold (by rwa [List.length_map]),
    sum_failures, List.length_map]

end SendMeter.Outcomes
