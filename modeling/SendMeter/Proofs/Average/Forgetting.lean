import Mathlib.Tactic.LinearCombination
import SendMeter.Proofs.Average.Influence

namespace SendMeter.Average

variable {window : Int}

/-- What a number of later samples leave of the mean of some samples. -/
def remainder (window : Int) (samples later : Nat) : Rat :=
  ∏ sample ∈ Finset.Ioc samples (samples + later), (1 - sampleWeight window sample)

private theorem remainder_succ (window : Int) (samples later : Nat) :
    remainder window samples (later + 1) =
      remainder window samples later * (1 - sampleWeight window (samples + later + 1)) := by
  rw [remainder, ← Nat.add_assoc, Finset.prod_Ioc_succ_top (Nat.le_add_right _ _), remainder]

private theorem remainder_nonneg (hwindow : 1 ≤ window) (samples later : Nat) :
    0 ≤ remainder window samples later :=
  Finset.prod_nonneg fun sample _ => one_sub_sampleWeight_nonneg hwindow sample

/-- Each later sample takes at least the weight that the window gives it. -/
theorem remainder_le_pow (hwindow : 1 ≤ window) (samples later : Nat) :
    remainder window samples later ≤ (1 - 2 / (window + 1)) ^ later := by
  have hfactor (sample : Nat) : 1 - sampleWeight window sample ≤ 1 - 2 / (window + 1) :=
    sub_le_sub_left (le_max_left _ _) 1
  calc remainder window samples later
      ≤ ∏ _sample ∈ Finset.Ioc samples (samples + later), (1 - 2 / (window + 1) : Rat) :=
        Finset.prod_le_prod (fun sample _ => one_sub_sampleWeight_nonneg hwindow sample)
          fun sample _ => hfactor sample
    _ = (1 - 2 / (window + 1)) ^ later := by
      rw [Finset.prod_const, Nat.card_Ioc, Nat.add_sub_cancel_left]

theorem decayedSum_append_sub (window : Int) {values values' : List Rat}
    (hlength : values'.length = values.length) (suffix : List Rat) (f : Rat → Rat) :
    decayedSum window (values ++ suffix) f - decayedSum window (values' ++ suffix) f =
      remainder window values.length suffix.length *
        (decayedSum window values f - decayedSum window values' f) := by
  induction suffix using List.reverseRecOn with
  | nil => simp [remainder]
  | append_singleton suffix value ih =>
    rw [← List.append_assoc, ← List.append_assoc, decayedSum_concat, decayedSum_concat,
      List.length_append, List.length_append, hlength, List.length_append, List.length_singleton,
      remainder_succ]
    linear_combination (1 - sampleWeight window (values.length + suffix.length + 1)) * ih

theorem abs_decayedSum_append_sub (hwindow : 1 ≤ window) {values values' : List Rat}
    (hlength : values'.length = values.length) (suffix : List Rat) (f : Rat → Rat) :
    |decayedSum window (values ++ suffix) f - decayedSum window (values' ++ suffix) f| =
      remainder window values.length suffix.length *
        |decayedSum window values f - decayedSum window values' f| := by
  rw [decayedSum_append_sub window hlength, abs_mul, abs_of_nonneg (remainder_nonneg hwindow _ _)]

theorem abs_decayedSum_append_sub_le (hwindow : 1 ≤ window) {values values' : List Rat}
    (hlength : values'.length = values.length) (suffix : List Rat) (f : Rat → Rat) :
    |decayedSum window (values ++ suffix) f - decayedSum window (values' ++ suffix) f| ≤
      (1 - 2 / (window + 1)) ^ suffix.length *
        |decayedSum window values f - decayedSum window values' f| := by
  rw [abs_decayedSum_append_sub hwindow hlength]
  exact mul_le_mul_of_nonneg_right (remainder_le_pow hwindow _ _) (abs_nonneg _)

/-- One value over and over: the distance from it is the difference to an average that never had
another value. -/
theorem abs_decayedSum_append_sub_value_le (hwindow : 1 ≤ window) {values : List Rat}
    (hne : values ≠ []) {suffix : List Rat} {value : Rat} (h : ∀ x ∈ suffix, x = value) :
    |decayedSum window (values ++ suffix) (fun x => x) - value| ≤
      (1 - 2 / (window + 1)) ^ suffix.length *
        |decayedSum window values (fun x => x) - value| := by
  have hreplicate : ∀ x ∈ List.replicate values.length value, x = value := fun x hx =>
    List.eq_of_mem_replicate hx
  have hne' : List.replicate values.length value ≠ [] := by simpa using hne
  have hlevel := decayedSum_of_forall_eq hwindow hne' hreplicate
  have hlevel' : decayedSum window (List.replicate values.length value ++ suffix)
      (fun x => x) = value :=
    decayedSum_of_forall_eq hwindow (List.append_ne_nil_of_left_ne_nil hne' suffix)
      (List.forall_mem_append.mpr ⟨hreplicate, h⟩)
  have hle := abs_decayedSum_append_sub_le hwindow
    (List.length_replicate (n := values.length) (a := value)) suffix (fun x => x)
  rwa [hlevel, hlevel'] at hle

theorem exists_appendAll_suffix (hwindow : 1 ≤ window) (samples suffix : List (Rat × Rat)) :
    ∃ a b, (initial window).appendAll samples = .ok a ∧ a.appendAll suffix = .ok b ∧
      a.mean = decayedSum window (samples.map (·.1)) (fun x => x) ∧
      b.mean = decayedSum window (samples.map (·.1) ++ suffix.map (·.1)) (fun x => x) := by
  obtain ⟨a, ha, -, -, hmoments⟩ := exists_hasMoments hwindow samples
  obtain ⟨b, hb, -, -, hmoments'⟩ := exists_hasMoments hwindow (samples ++ suffix)
  rw [List.map_append] at hmoments'
  exact ⟨a, b, ha, (appendAll_append ha suffix).symm.trans hb, hmoments.mean_eq, hmoments'.mean_eq⟩

/-- Two averages of one window have recorded as many samples, whatever these were, and are then
given the same samples, at any clock readings. Each of these multiplies the difference of the means
by what its weight leaves of one, which is at most what the weight of the window leaves. If all of
them are one value, the distance of either mean from it shrinks at least as much. -/
theorem levels_forgotten_geometrically (hwindow : 1 ≤ window)
    {samples samples' suffix suffix' : List (Rat × Rat)} (hne : samples ≠ [])
    (hlength : samples'.length = samples.length) (hsuffix : suffix'.map (·.1) = suffix.map (·.1)) :
    ∃ start a a' b b' : Average Rat, create window = .ok start ∧
      start.appendAll samples = .ok a ∧ start.appendAll samples' = .ok a' ∧
      a.appendAll suffix = .ok b ∧ a'.appendAll suffix' = .ok b' ∧
      |b.mean - b'.mean| = remainder window samples.length suffix.length * |a.mean - a'.mean| ∧
      |b.mean - b'.mean| ≤ (1 - 2 / (window + 1)) ^ suffix.length * |a.mean - a'.mean| ∧
      ∀ value, (∀ sample ∈ suffix, sample.1 = value) →
        |b.mean - value| ≤ (1 - 2 / (window + 1)) ^ suffix.length * |a.mean - value| ∧
        |b'.mean - value| ≤ (1 - 2 / (window + 1)) ^ suffix.length * |a'.mean - value| := by
  obtain ⟨a, b, ha, hb, hmean, hmeanb⟩ := exists_appendAll_suffix hwindow samples suffix
  obtain ⟨a', b', ha', hb', hmean', hmeanb'⟩ := exists_appendAll_suffix hwindow samples' suffix'
  rw [hsuffix] at hmeanb'
  have hvalues : samples.map (·.1) ≠ [] := by simpa using hne
  have hlengths : (samples'.map (·.1)).length = (samples.map (·.1)).length := by
    rw [List.length_map, List.length_map, hlength]
  have hvalues' : samples'.map (·.1) ≠ [] :=
    List.ne_nil_of_length_pos (hlengths ▸ List.length_pos_iff.mpr hvalues)
  have habs := abs_decayedSum_append_sub hwindow hlengths (suffix.map (·.1)) (fun x => x)
  have hle := abs_decayedSum_append_sub_le hwindow hlengths (suffix.map (·.1)) (fun x => x)
  simp only [List.length_map] at habs hle
  refine ⟨initial window, a, a', b, b', create_rat hwindow, ha, ha', hb, hb', ?_, ?_, ?_⟩
  · rwa [hmean, hmean', hmeanb, hmeanb']
  · rwa [hmean, hmean', hmeanb, hmeanb']
  · intro value hvalue
    have hsame : ∀ x ∈ suffix.map (·.1), x = value := by simpa using hvalue
    have hlevel := abs_decayedSum_append_sub_value_le hwindow hvalues hsame
    have hlevel' := abs_decayedSum_append_sub_value_le hwindow hvalues' hsame
    rw [List.length_map] at hlevel hlevel'
    rw [hmean, hmean', hmeanb, hmeanb']
    exact ⟨hlevel, hlevel'⟩

/-- Under a window of three, 10 and 2 are brought to a fourth of their difference by two more
samples, and each to a fourth of its distance from 4 if this is what both samples are. -/
theorem levels_forgotten_geometrically_two_levels :
    ∃ start a a' b b' : Average Rat, create 3 = .ok start ∧
      start.appendAll [(10, 0)] = .ok a ∧ start.appendAll [(2, 7)] = .ok a' ∧
      a.appendAll [(4, 1), (4, 2)] = .ok b ∧ a'.appendAll [(4, 8), (4, 8)] = .ok b' ∧
      |b.mean - b'.mean| = 1 / 4 * |a.mean - a'.mean| ∧
      |b.mean - 4| ≤ 1 / 4 * |a.mean - 4| ∧ |b'.mean - 4| ≤ 1 / 4 * |a'.mean - 4| := by
  obtain ⟨start, a, a', b, b', hstart, ha, ha', hb, hb', hmeans, -, hlevel⟩ :=
    levels_forgotten_geometrically (show (1 : Int) ≤ 3 by decide)
      (show ([(10, 0)] : List (Rat × Rat)) ≠ [] by decide)
      (show ([(2, 7)] : List (Rat × Rat)).length = [(10, 0)].length from rfl)
      (show ([(4, 8), (4, 8)] : List (Rat × Rat)).map (·.1) = [(4, 1), (4, 2)].map (·.1) from rfl)
  have hremainder : remainder 3 1 2 = 1 / 4 := by decide +kernel
  have hpow : (1 - 2 / ((3 : Int) + 1) : Rat) ^ 2 = 1 / 4 := by norm_num
  obtain ⟨hle, hle'⟩ := hlevel 4 (by simp)
  simp only [List.length_cons, List.length_nil, Nat.zero_add, Nat.reduceAdd, hremainder,
    hpow] at hmeans hle hle'
  exact ⟨start, a, a', b, b', hstart, ha, ha', hb, hb', hmeans, hle, hle'⟩

end SendMeter.Average
