import Mathlib.Algebra.BigOperators.Field
import Mathlib.Tactic.FieldSimp
import SendMeter.Proofs.Average.Influence

namespace SendMeter.Average

variable {window : Int}

/-- While the average is cold, a sample loses to each later one just what makes them equal. -/
theorem influence_of_cold {samples sample : Nat} (hpos : 0 < sample) (hle : sample ≤ samples)
    (hcold : 2 * samples ≤ window + 1) : influence window samples sample = 1 / samples := by
  induction samples, hle using Nat.le_induction with
  | base => rw [influence_self, sampleWeight_of_cold hpos hcold]
  | succ samples hle ih =>
    have hsamples : (samples : Rat) ≠ 0 := by exact_mod_cast (by omega : samples ≠ 0)
    have hnext : (samples : Rat) + 1 ≠ 0 := by exact_mod_cast Nat.succ_ne_zero samples
    rw [influence_succ hle, ih (by omega), sampleWeight_of_cold (Nat.succ_pos samples) hcold,
      Nat.cast_succ]
    field_simp
    ring

theorem decayedSum_of_cold {values : List Rat} (hcold : 2 * values.length ≤ window + 1)
    (f : Rat → Rat) : decayedSum window values f = (values.map f).sum / values.length := by
  have hterm (i : Fin values.length) :
      influence window values.length (i + 1) * f values[i] = f values[i] / values.length := by
    rw [influence_of_cold (Nat.succ_pos i) i.isLt hcold]
    ring
  rw [decayedSum, Finset.sum_congr rfl fun i _ => hterm i, ← Finset.sum_div,
    ← Fin.sum_univ_fun_getElem]
  rfl

/-- The mean and the variance in which each sample counts the same. -/
structure IsPlain (samples : List (Rat × Rat)) (a : Average Rat) : Prop where
  mean_eq : a.mean = (samples.map fun sample => sample.1).sum / samples.length
  variance_eq :
    a.variance = (samples.map fun sample => (sample.1 - a.mean) ^ 2).sum / samples.length

theorem isPlain_of_cold (hwindow : 1 ≤ window) {samples : List (Rat × Rat)} {a : Average Rat}
    (hne : samples ≠ []) (hcold : 2 * samples.length ≤ window + 1)
    (h : HasMoments window (samples.map (·.1)) a) : IsPlain samples a := by
  have hne' : samples.map (·.1) ≠ [] := by simpa using hne
  have hcold' : 2 * (samples.map (·.1)).length ≤ window + 1 := by rwa [List.length_map]
  refine ⟨?_, ?_⟩
  · rw [h.mean_eq, decayedSum_of_cold hcold', List.map_map, List.length_map]
    rfl
  · rw [h.variance_eq_decayedSum hwindow hne', decayedSum_of_cold hcold', List.map_map,
      List.length_map]
    rfl

/-- A sample of one after samples of zero shows its weight as the mean. Once the average is warm,
this is more than its share. -/
theorem exists_not_isPlain_of_warm (hwindow : 1 ≤ window) {count : Nat}
    (hwarm : window + 1 < 2 * count) :
    ∃ samples : List (Rat × Rat), samples.length = count ∧
      ∀ a, (initial window).appendAll samples = .ok a → ¬ IsPlain samples a := by
  obtain ⟨zeros, rfl⟩ : ∃ zeros, count = zeros + 1 := ⟨count - 1, by omega⟩
  refine ⟨List.replicate zeros (0, 0) ++ [(1, 0)], by simp, fun a ha hplain => ?_⟩
  have hmoments := hasMoments_of_appendAll hwindow ha
  have hzeros : decayedSum window (List.replicate zeros 0) (fun x => x) = 0 := by
    simp [decayedSum]
  have hweight : a.mean = 2 / (window + 1) := by
    rw [hmoments.mean_eq, List.map_append, List.map_replicate, List.map_singleton,
      decayedSum_concat, hzeros, List.length_replicate, sampleWeight_of_warm hwindow hwarm.le]
    ring
  have hshare : a.mean = 1 / (zeros + 1) := by
    rw [hplain.mean_eq]
    simp
  have hterms : (0 : Rat) < window + 1 := by exact_mod_cast (by omega : 0 < window + 1)
  have hcount : (0 : Rat) < zeros + 1 := by positivity
  have hlt : (window + 1 : Rat) < 2 * (zeros + 1) := by exact_mod_cast hwarm
  rw [hweight, div_eq_div_iff hterms.ne' hcount.ne'] at hshare
  linarith

/-- What one more sample does to the mean and the variance once the average is warm. -/
theorem append_of_warm (hwindow : 1 ≤ window) {a : Average Rat} (h : Tuned window a)
    (hwarm : window + 1 ≤ 2 * (a.count + 1)) (value now : Rat) :
    ∃ b, a.append value now = .ok b ∧ a.weight (a.count + 1) = .ok (2 / (window + 1)) ∧
      b.mean = (1 - 2 / (window + 1)) * a.mean + 2 / (window + 1) * value ∧
      b.variance =
        (1 - 2 / (window + 1)) * (a.variance + 2 / (window + 1) * (value - a.mean) ^ 2) := by
  have hweight : sampleWeight window (a.count + 1) = 2 / (window + 1) :=
    sampleWeight_of_warm hwindow (by exact_mod_cast hwarm)
  refine ⟨a.extended window value now, append_rat h value now, ?_, ?_, ?_⟩
  · rw [weight_rat h (Nat.succ_ne_zero _), hweight]
  · rw [extended, fold_mean, hweight]
    ring
  · rw [extended_variance hwindow h, hweight, spread]
    ring

/-- An average has the plain mean and variance of its samples, whatever these are, exactly as long
as twice their number is at most the window and one more. Each sample whose number reaches this
boundary or lies beyond it is folded in with the weight of the window. -/
theorem plain_exactly_while_cold (hwindow : 1 ≤ window) :
    ∃ start : Average Rat, create window = .ok start ∧
      (∀ count : Nat, 0 < count → (2 * count ≤ window + 1 ↔
        ∀ samples : List (Rat × Rat), samples.length = count →
          ∃ a, start.appendAll samples = .ok a ∧ IsPlain samples a)) ∧
      ∀ (samples : List (Rat × Rat)) (value now : Rat), window + 1 ≤ 2 * (samples.length + 1) →
        ∃ a b, start.appendAll samples = .ok a ∧ a.append value now = .ok b ∧
          a.weight (samples.length + 1) = .ok (2 / (window + 1)) ∧
          b.mean = (1 - 2 / (window + 1)) * a.mean + 2 / (window + 1) * value ∧
          b.variance =
            (1 - 2 / (window + 1)) * (a.variance + 2 / (window + 1) * (value - a.mean) ^ 2) := by
  refine ⟨initial window, create_rat hwindow, fun count hpos => ⟨?_, fun hplain => ?_⟩, ?_⟩
  · rintro hcold samples rfl
    obtain ⟨a, ha, -, -, hmoments⟩ := exists_hasMoments hwindow samples
    exact ⟨a, ha, isPlain_of_cold hwindow (List.ne_nil_of_length_pos hpos) hcold hmoments⟩
  · by_contra hwarm
    obtain ⟨samples, hlength, hnot⟩ := exists_not_isPlain_of_warm hwindow (not_le.mp hwarm)
    obtain ⟨a, ha, hplain⟩ := hplain samples hlength
    exact hnot a ha hplain
  · intro samples value now hwarm
    obtain ⟨a, ha, htuned, hcount, -⟩ := exists_hasMoments hwindow samples
    rw [← hcount] at hwarm ⊢
    obtain ⟨b, hb, happended⟩ := append_of_warm hwindow htuned hwarm value now
    exact ⟨a, b, ha, hb, happended⟩

/-- Under a window of three the average is cold for two samples; the second lies on the boundary,
and the third is folded in with a half instead of a third. -/
theorem plain_exactly_while_cold_two_samples :
    ∃ start a b : Average Rat, create 3 = .ok start ∧
      start.appendAll [(2, 0), (4, 1)] = .ok a ∧ a.mean = 3 ∧ a.variance = 1 ∧
      a.append 10 2 = .ok b ∧ b.mean = 13 / 2 ∧ b.variance = 51 / 4 := by
  obtain ⟨start, hstart, hcold, hwarm⟩ := plain_exactly_while_cold (show (1 : Int) ≤ 3 by decide)
  obtain ⟨a, b, ha, hb, -, hmean, hvariance⟩ := hwarm [(2, 0), (4, 1)] 10 2 (by decide)
  obtain ⟨c, hc, hplain⟩ := (hcold 2 (by decide)).mp (by decide) [(2, 0), (4, 1)] rfl
  obtain rfl : a = c := Except.ok.inj (ha.symm.trans hc)
  have hmean' : a.mean = 3 := by
    rw [hplain.mean_eq]
    norm_num
  have hvariance' : a.variance = 1 := by
    rw [hplain.variance_eq, hmean']
    norm_num
  refine ⟨start, a, b, hstart, ha, hmean', hvariance', hb, ?_, ?_⟩
  · rw [hmean, hmean']
    norm_num
  · rw [hvariance, hvariance', hmean']
    norm_num

end SendMeter.Average
