import Mathlib.Algebra.BigOperators.Fin
import Mathlib.Algebra.BigOperators.Intervals
import Mathlib.Algebra.Order.BigOperators.Ring.Finset
import Mathlib.Data.List.GetD
import Mathlib.Tactic.FieldSimp
import SendMeter.Proofs.Average.Samples

namespace SendMeter.Average

variable {window : Int}

/-- What is left of a sample, by its number, after a number of samples. -/
def influence (window : Int) (samples sample : Nat) : Rat :=
  sampleWeight window sample * ∏ later ∈ Finset.Ioc sample samples, (1 - sampleWeight window later)

theorem influence_nonneg (hwindow : 1 ≤ window) (samples sample : Nat) :
    0 ≤ influence window samples sample := by
  refine mul_nonneg (sampleWeight_pos hwindow sample).le (Finset.prod_nonneg fun later _ => ?_)
  exact one_sub_sampleWeight_nonneg hwindow later

/-- From a window of two on, something is left of every sample. -/
theorem influence_pos (hwindow : 2 ≤ window) (samples : Nat) {sample : Nat} (hpos : 0 < sample) :
    0 < influence window samples sample := by
  refine mul_pos (sampleWeight_pos (by omega) sample) (Finset.prod_pos fun later hlater => ?_)
  have hlt : sample < later := (Finset.mem_Ioc.mp hlater).1
  exact sub_pos.mpr (sampleWeight_lt_one hwindow (by omega))

@[simp] theorem influence_self (window : Int) (samples : Nat) :
    influence window samples samples = sampleWeight window samples := by
  simp [influence]

theorem influence_succ {samples sample : Nat} (hle : sample ≤ samples) :
    influence window (samples + 1) sample =
      (1 - sampleWeight window (samples + 1)) * influence window samples sample := by
  rw [influence, influence, Finset.prod_Ioc_succ_top hle]
  ring

/-- The sum of a function of the samples under their influences. -/
def decayedSum (window : Int) (samples : List Rat) (f : Rat → Rat) : Rat :=
  ∑ i : Fin samples.length, influence window samples.length (i + 1) * f samples[i]

theorem decayedSum_eq_sum_range (window : Int) (samples : List Rat) (f : Rat → Rat) :
    decayedSum window samples f =
      ∑ i ∈ Finset.range samples.length,
        influence window samples.length (i + 1) * f (samples.getD i 0) := by
  rw [Finset.sum_range]
  refine Finset.sum_congr rfl fun i _ => ?_
  rw [List.getD_eq_getElem _ _ i.isLt]
  rfl

@[simp] theorem decayedSum_nil (window : Int) (f : Rat → Rat) : decayedSum window [] f = 0 := rfl

/-- One more sample takes its weight from all samples before it. -/
theorem decayedSum_concat (window : Int) (samples : List Rat) (value : Rat) (f : Rat → Rat) :
    decayedSum window (samples ++ [value]) f =
      (1 - sampleWeight window (samples.length + 1)) * decayedSum window samples f +
        sampleWeight window (samples.length + 1) * f value := by
  simp only [decayedSum_eq_sum_range, List.length_append, List.length_singleton]
  rw [Finset.sum_range_succ, influence_self, Finset.mul_sum]
  congr 1
  · refine Finset.sum_congr rfl fun i hi => ?_
    have hlt : i < samples.length := Finset.mem_range.mp hi
    rw [influence_succ (by omega), List.getD_append _ _ _ _ hlt]
    ring
  · rw [List.getD_append_right _ _ _ _ (le_refl _), Nat.sub_self]
    rfl

theorem decayedSum_one (hwindow : 1 ≤ window) {samples : List Rat} (hne : samples ≠ []) :
    decayedSum window samples (fun _ => 1) = 1 := by
  induction samples using List.reverseRecOn with
  | nil => exact absurd rfl hne
  | append_singleton samples value ih =>
    rw [decayedSum_concat]
    by_cases hempty : samples = []
    · subst samples
      simp [sampleWeight_one hwindow]
    · rw [ih hempty]
      ring

theorem decayedSum_const (hwindow : 1 ≤ window) {samples : List Rat} (hne : samples ≠ [])
    (c : Rat) : decayedSum window samples (fun _ => c) = c := by
  have hone := decayedSum_one hwindow hne
  simp only [decayedSum, ← Finset.sum_mul, mul_one] at hone ⊢
  rw [hone, one_mul]

theorem decayedSum_congr {samples : List Rat} {f g : Rat → Rat} (h : ∀ x ∈ samples, f x = g x) :
    decayedSum window samples f = decayedSum window samples g :=
  Finset.sum_congr rfl fun i _ => by rw [h samples[i] (List.getElem_mem i.isLt)]

theorem decayedSum_of_forall_eq (hwindow : 1 ≤ window) {samples : List Rat} (hne : samples ≠ [])
    {f : Rat → Rat} {c : Rat} (h : ∀ x ∈ samples, f x = c) : decayedSum window samples f = c := by
  rw [decayedSum_congr h, decayedSum_const hwindow hne]

theorem decayedSum_sub (window : Int) (samples : List Rat) (f g : Rat → Rat) :
    decayedSum window samples (fun x => f x - g x) =
      decayedSum window samples f - decayedSum window samples g := by
  simp only [decayedSum, ← Finset.sum_sub_distrib, mul_sub]

theorem decayedSum_mul_left (window : Int) (samples : List Rat) (c : Rat) (f : Rat → Rat) :
    decayedSum window samples (fun x => c * f x) = c * decayedSum window samples f := by
  rw [decayedSum, decayedSum, Finset.mul_sum]
  exact Finset.sum_congr rfl fun i _ => mul_left_comm _ _ _

theorem decayedSum_values_map (window : Int) (samples : List Rat) (g f : Rat → Rat) :
    decayedSum window (samples.map g) f = decayedSum window samples (fun x => f (g x)) := by
  induction samples using List.reverseRecOn with
  | nil => rfl
  | append_singleton samples value ih =>
    rw [List.map_append, List.map_singleton, decayedSum_concat, decayedSum_concat, ih,
      List.length_map]

theorem decayedSum_mono (hwindow : 1 ≤ window) {samples : List Rat} {f g : Rat → Rat}
    (h : ∀ x ∈ samples, f x ≤ g x) :
    decayedSum window samples f ≤ decayedSum window samples g :=
  Finset.sum_le_sum fun i _ =>
    mul_le_mul_of_nonneg_left (h samples[i] (List.getElem_mem i.isLt))
      (influence_nonneg hwindow _ _)

theorem decayedSum_pos (hwindow : 1 ≤ window) {samples : List Rat} (hne : samples ≠ [])
    {f : Rat → Rat} (h : ∀ x ∈ samples, 0 < f x) : 0 < decayedSum window samples f := by
  obtain ⟨before, value, rfl⟩ := (List.eq_nil_or_concat' samples).resolve_left hne
  have hbefore : 0 ≤ decayedSum window before f :=
    Finset.sum_nonneg fun i _ => mul_nonneg (influence_nonneg hwindow _ _)
      (h _ (List.mem_append_left _ (List.getElem_mem i.isLt))).le
  have hvalue : 0 < f value := h value (by simp)
  rw [decayedSum_concat]
  exact add_pos_of_nonneg_of_pos (mul_nonneg (one_sub_sampleWeight_nonneg hwindow _) hbefore)
    (mul_pos (sampleWeight_pos hwindow _) hvalue)

/-- The reciprocal lies above its tangents. -/
theorem tangent_le_one_div {x c : Rat} (hx : 0 < x) (hc : 0 < c) :
    2 / c - 1 / c ^ 2 * x ≤ 1 / x := by
  have hsquare : 0 ≤ (x - c) ^ 2 / (x * c ^ 2) := by positivity
  have heq : (x - c) ^ 2 / (x * c ^ 2) = 1 / x - (2 / c - 1 / c ^ 2 * x) := by
    field_simp
    ring
  linarith

/-- The harmonic mean is at most the arithmetic mean, under the same influences. -/
theorem one_div_decayedSum_le (hwindow : 1 ≤ window) {samples : List Rat} (hne : samples ≠ [])
    (hpos : ∀ x ∈ samples, 0 < x) :
    1 / decayedSum window samples (fun x => x) ≤ decayedSum window samples (fun x => 1 / x) := by
  have hmean : 0 < decayedSum window samples (fun x => x) := decayedSum_pos hwindow hne hpos
  -- under influences that add up to one, a tangent has the same value at the arithmetic mean as its
  -- sum over the samples; the tangent taken there has the value of the reciprocal
  have htangent := decayedSum_mono hwindow fun x hx => tangent_le_one_div (hpos x hx) hmean
  rw [decayedSum_sub, decayedSum_const hwindow hne, decayedSum_mul_left] at htangent
  refine le_of_eq_of_le ?_ htangent
  field_simp
  ring

/-- From a window of two on, no sample is lost in a sum. -/
theorem decayedSum_eq_zero_iff (hwindow : 2 ≤ window) {samples : List Rat} {f : Rat → Rat}
    (hf : ∀ x ∈ samples, 0 ≤ f x) :
    decayedSum window samples f = 0 ↔ ∀ x ∈ samples, f x = 0 := by
  have hterm (i : Fin samples.length) :
      influence window samples.length (i + 1) * f samples[i] = 0 ↔ f samples[i] = 0 :=
    mul_eq_zero_iff_left (influence_pos hwindow _ (Nat.succ_pos i)).ne'
  rw [decayedSum, Finset.sum_eq_zero_iff_of_nonneg fun i _ =>
    mul_nonneg (influence_nonneg (by omega) _ _) (hf _ (List.getElem_mem i.isLt))]
  simp only [Finset.mem_univ, forall_const, hterm, List.forall_mem_iff_getElem]
  exact ⟨fun h i hi => h ⟨i, hi⟩, fun h i => h i i.isLt⟩

/-- The squared distances from a point, by the sums of squares, of values and of influences. -/
theorem decayedSum_sq_sub (window : Int) (samples : List Rat) (center : Rat) :
    decayedSum window samples (fun x => (x - center) ^ 2) =
      decayedSum window samples (fun x => x ^ 2) -
        2 * center * decayedSum window samples (fun x => x) +
        center ^ 2 * decayedSum window samples (fun _ => 1) := by
  simp only [decayedSum, Finset.mul_sum]
  rw [← Finset.sum_sub_distrib, ← Finset.sum_add_distrib]
  refine Finset.sum_congr rfl fun i _ => ?_
  ring

/-- The moments of an average are those of some values. The variance is kept as a difference of
moments, which one value changes in the same way also from the empty average, whose influences do
not add up to one. -/
structure HasMoments (window : Int) (values : List Rat) (a : Average Rat) : Prop where
  mean_eq : a.mean = decayedSum window values (fun x => x)
  variance_eq : a.variance = decayedSum window values (fun x => x ^ 2) - a.mean ^ 2

theorem hasMoments_initial (window : Int) : HasMoments window [] (initial window) where
  mean_eq := rfl
  variance_eq := by simp

theorem HasMoments.fold (hwindow : 1 ≤ window) {values : List Rat} {a : Average Rat}
    (hvariance : 0 ≤ a.variance) (h : HasMoments window values a) (value : Rat) :
    HasMoments window (values ++ [value])
      (a.fold (sampleWeight window (values.length + 1)) value) := by
  have hmean := h.mean_eq
  have hsquares : decayedSum window values (fun x => x ^ 2) = a.variance + a.mean ^ 2 := by
    rw [h.variance_eq]
    ring
  have hspread := fold_variance_eq_spread hvariance
    (sampleWeight_pos hwindow (values.length + 1)).le (sampleWeight_le_one hwindow _) value
  refine ⟨?_, ?_⟩
  · rw [decayedSum_concat, fold_mean, ← hmean]
    ring
  · rw [decayedSum_concat, hspread, fold_mean, spread, hsquares]
    ring

/-- The first value has the whole weight, so that nothing is left of what the average held. -/
theorem hasMoments_fold_first (hwindow : 1 ≤ window) (a : Average Rat) (value : Rat) :
    HasMoments window [value] (a.fold (sampleWeight window 1) value) := by
  have hone (f : Rat → Rat) : decayedSum window [value] f = f value := by
    have h := decayedSum_concat window [] value f
    simpa [sampleWeight_one hwindow] using h
  rw [sampleWeight_one hwindow]
  refine ⟨?_, ?_⟩
  · rw [hone, fold_mean]
    ring
  · rw [hone, fold_variance_rat, fold_mean, spread]
    simp

theorem HasMoments.variance_eq_decayedSum (hwindow : 1 ≤ window) {values : List Rat}
    {a : Average Rat} (h : HasMoments window values a) (hne : values ≠ []) :
    a.variance = decayedSum window values (fun x => (x - a.mean) ^ 2) := by
  rw [decayedSum_sq_sub, decayedSum_one hwindow hne, ← h.mean_eq, h.variance_eq]
  ring

/-- A bound below all values is below their mean. -/
theorem HasMoments.le_mean (hwindow : 1 ≤ window) {values : List Rat} {a : Average Rat}
    (h : HasMoments window values a) (hne : values ≠ []) {low : Rat}
    (hlow : ∀ x ∈ values, low ≤ x) : low ≤ a.mean := by
  rw [h.mean_eq, ← decayedSum_const hwindow hne low]
  exact decayedSum_mono hwindow hlow

theorem HasMoments.mean_le (hwindow : 1 ≤ window) {values : List Rat} {a : Average Rat}
    (h : HasMoments window values a) (hne : values ≠ []) {high : Rat}
    (hhigh : ∀ x ∈ values, x ≤ high) : a.mean ≤ high := by
  rw [h.mean_eq, ← decayedSum_const hwindow hne high]
  exact decayedSum_mono hwindow hhigh

theorem HasMoments.of_forall_eq (hwindow : 1 ≤ window) {values : List Rat} {a : Average Rat}
    (h : HasMoments window values a) (hne : values ≠ []) {value : Rat}
    (heq : ∀ x ∈ values, x = value) : a.mean = value ∧ a.variance = 0 := by
  have hmean : a.mean = value := h.mean_eq.trans (decayedSum_of_forall_eq hwindow hne heq)
  refine ⟨hmean, ?_⟩
  rw [h.variance_eq_decayedSum hwindow hne]
  refine decayedSum_of_forall_eq hwindow hne fun x hx => ?_
  rw [heq x hx, hmean, sub_self, zero_pow two_ne_zero]

theorem exists_hasMoments (hwindow : 1 ≤ window) (samples : List (Rat × Rat)) :
    ∃ a, (initial window).appendAll samples = .ok a ∧ Tuned window a ∧ a.count = samples.length ∧
      HasMoments window (samples.map (·.1)) a := by
  obtain ⟨a, ha, htuned, hcount, hmoments⟩ := appendAll_induction
    (fun samples a => HasMoments window (samples.map (·.1)) a)
    (tuned_initial window) (hasMoments_initial window) (by
      intro samples b value now htuned hcount h
      have hfold := h.fold hwindow htuned.variance_nonneg value
      have hlength : b.count = (samples.map (·.1)).length := by
        rw [hcount, initial_count, Nat.zero_add, List.length_map]
      rw [← hlength] at hfold
      rw [List.map_append, List.map_singleton]
      exact ⟨hfold.mean_eq, hfold.variance_eq⟩) samples
  exact ⟨a, ha, htuned, hcount.trans (Nat.zero_add _), hmoments⟩

theorem hasMoments_of_appendAll (hwindow : 1 ≤ window) {samples : List (Rat × Rat)}
    {a : Average Rat} (ha : (initial window).appendAll samples = .ok a) :
    HasMoments window (samples.map (·.1)) a := by
  obtain ⟨b, hb, -, -, hmoments⟩ := exists_hasMoments hwindow samples
  obtain rfl : b = a := Except.ok.inj (hb.symm.trans ha)
  exact hmoments

theorem decayedSum_map (window : Int) (samples : List (Rat × Rat)) (f : Rat → Rat) :
    decayedSum window (samples.map (·.1)) f =
      ∑ i : Fin samples.length, influence window samples.length (i + 1) * f samples[i].1 := by
  rw [decayedSum_eq_sum_range, List.length_map, Finset.sum_range]
  refine Finset.sum_congr rfl fun i _ => ?_
  rw [List.getD_eq_getElem _ _ (by rw [List.length_map]; exact i.isLt), List.getElem_map]
  rfl

/-- After any samples, the mean is the sum of the samples under their influences, and the variance
is that of their squared distances from this mean. The influences are nonnegative and add up to one.
No variance on the way there is changed by the maximum that guards it. -/
theorem mean_variance_eq_sum_influence (hwindow : 1 ≤ window) {samples : List (Rat × Rat)}
    (hne : samples ≠ []) :
    ∃ start a : Average Rat, create window = .ok start ∧ start.appendAll samples = .ok a ∧
      (∀ i : Fin samples.length, 0 ≤ influence window samples.length (i + 1)) ∧
      ∑ i : Fin samples.length, influence window samples.length (i + 1) = 1 ∧
      a.mean = ∑ i : Fin samples.length,
        influence window samples.length (i + 1) * samples[i].1 ∧
      a.variance = ∑ i : Fin samples.length,
        influence window samples.length (i + 1) * (samples[i].1 - a.mean) ^ 2 ∧
      ∀ before value now, ∃ b c : Average Rat, start.appendAll before = .ok b ∧
        b.append value now = .ok c ∧
        c.variance = b.spread (sampleWeight window (before.length + 1)) value := by
  obtain ⟨a, ha, -, -, hmoments⟩ := exists_hasMoments hwindow samples
  have hne' : samples.map (·.1) ≠ [] := by simpa using hne
  refine ⟨initial window, a, create_rat hwindow, ha, fun i => influence_nonneg hwindow _ _,
    ?_, ?_, ?_, ?_⟩
  · have hone := decayedSum_one hwindow hne'
    rw [decayedSum_map] at hone
    simpa using hone
  · rw [hmoments.mean_eq, decayedSum_map]
  · rw [hmoments.variance_eq_decayedSum hwindow hne', decayedSum_map]
  · intro before value now
    obtain ⟨b, hb, htuned, hcount, -⟩ := exists_hasMoments hwindow before
    refine ⟨b, b.extended window value now, hb, append_rat htuned value now, ?_⟩
    rw [extended_variance hwindow htuned, hcount]

/-- Three samples under a window of three: the second weighs as much as the steady weight, and the
third more than a third. -/
theorem mean_variance_three_samples :
    ∃ start a : Average Rat, create 3 = .ok start ∧
      start.appendAll [(2, 0), (4, 1), (10, 2)] = .ok a ∧
      a.mean = 13 / 2 ∧ a.variance = 51 / 4 := by
  have hwindow : (1 : Int) ≤ 3 := by decide
  have hne : ([(2, 0), (4, 1), (10, 2)] : List (Rat × Rat)) ≠ [] := by decide
  obtain ⟨start, a, hstart, ha, -, -, hmean, hvariance, -⟩ :=
    mean_variance_eq_sum_influence hwindow hne
  have hinfluence :
      influence 3 3 1 = 1 / 4 ∧ influence 3 3 2 = 1 / 4 ∧ sampleWeight 3 3 = 1 / 2 := by
    decide +kernel
  obtain ⟨hfirst, hsecond, hthird⟩ := hinfluence
  have hmean' : a.mean = 13 / 2 := by
    rw [hmean]
    simp [Fin.sum_univ_succ, hfirst, hsecond, hthird]
    norm_num
  refine ⟨start, a, hstart, ha, hmean', ?_⟩
  rw [hvariance, hmean']
  simp [Fin.sum_univ_succ, hfirst, hsecond, hthird]
  norm_num

end SendMeter.Average
