import Mathlib.Data.List.Sort
import Mathlib.Tactic.LinearCombination
import SendMeter.Proofs.Average.Influence

namespace SendMeter.Average

variable {window : Int}

/-- What the next sample leaves of the weight of a sample is no more than its own. -/
theorem one_sub_mul_sampleWeight_le_succ (hwindow : 1 ≤ window) {sample : Nat}
    (hpos : 0 < sample) :
    (1 - sampleWeight window (sample + 1)) * sampleWeight window sample ≤
      sampleWeight window (sample + 1) := by
  have hsample : (0 : Rat) < sample := by exact_mod_cast hpos
  have hnext := sampleWeight_pos hwindow (sample + 1)
  have hrest := one_sub_sampleWeight_nonneg hwindow (sample + 1)
  have hsteady : 2 / (window + 1) ≤ sampleWeight window (sample + 1) := le_max_left _ _
  have hshare : 1 / (sample + 1) ≤ sampleWeight window (sample + 1) := by
    rw [← Nat.cast_succ]
    exact le_max_right _ _
  rw [sampleWeight.eq_def window sample, mul_max_of_nonneg _ _ hrest]
  refine max_le ?_ ?_
  · -- the weight that the window gives is at most that of the next sample, before anything is left
    calc (1 - sampleWeight window (sample + 1)) * (2 / (window + 1))
        ≤ 1 * (2 / (window + 1)) :=
          mul_le_mul_of_nonneg_right (by linarith) (steadyWeight_pos hwindow).le
      _ ≤ sampleWeight window (sample + 1) := by rwa [one_mul]
  · -- the next sample takes at least its share, which leaves as much for each sample before it
    rw [div_le_iff₀ (by linarith)] at hshare
    rw [mul_one_div, div_le_iff₀ hsample]
    linarith

/-- A sample has no less influence than the one before it. -/
theorem influence_le_influence_succ (hwindow : 1 ≤ window) {samples sample : Nat}
    (hpos : 0 < sample) (hlt : sample < samples) :
    influence window samples sample ≤ influence window samples (sample + 1) := by
  induction samples, hlt using Nat.le_induction with
  | base =>
    rw [influence_succ (le_refl sample), influence_self, influence_self]
    exact one_sub_mul_sampleWeight_le_succ hwindow hpos
  | succ samples hle ih =>
    have hrest := one_sub_sampleWeight_nonneg hwindow (samples + 1)
    rw [influence_succ (Nat.le_of_succ_le hle), influence_succ hle]
    exact mul_le_mul_of_nonneg_left ih hrest

/-- Exchanging two neighbours moves the sum by their difference, as far as their influences
differ. -/
theorem decayedSum_exchange (window : Int) (before after : List Rat) (first second : Rat)
    (f : Rat → Rat) :
    decayedSum window (before ++ second :: first :: after) f -
        decayedSum window (before ++ first :: second :: after) f =
      (influence window (before.length + 2 + after.length) (before.length + 2) -
          influence window (before.length + 2 + after.length) (before.length + 1)) *
        (f first - f second) := by
  induction after using List.reverseRecOn with
  | nil =>
    have hpair (x y : Rat) : before ++ [x, y] = (before ++ [x]) ++ [y] := by simp
    rw [hpair, hpair, decayedSum_concat, decayedSum_concat, decayedSum_concat, decayedSum_concat,
      List.length_nil, Nat.add_zero, influence_succ (Nat.le_refl (before.length + 1)),
      influence_self, influence_self]
    simp only [List.length_append, List.length_singleton]
    ring
  | append_singleton after value ih =>
    have hlast (x y : Rat) :
        before ++ x :: y :: (after ++ [value]) = (before ++ x :: y :: after) ++ [value] := by simp
    have hlength (x y : Rat) :
        (before ++ x :: y :: after).length = before.length + 2 + after.length := by
      simp only [List.length_append, List.length_cons]
      omega
    rw [hlast, hlast, decayedSum_concat, decayedSum_concat, hlength, hlength, List.length_append,
      List.length_singleton, ← Nat.add_assoc, influence_succ (by omega), influence_succ (by omega)]
    linear_combination
      (1 - sampleWeight window (before.length + 2 + after.length + 1)) * ih

theorem decayedSum_le_of_exchange (hwindow : 1 ≤ window) (before after : List Rat)
    {first second : Rat} (hle : second ≤ first) :
    decayedSum window (before ++ first :: second :: after) (fun x => x) ≤
      decayedSum window (before ++ second :: first :: after) (fun x => x) := by
  have hexchange := decayedSum_exchange window before after first second (fun x => x)
  have hlt : before.length + 1 < before.length + 2 + after.length := by omega
  have hinfluence := influence_le_influence_succ hwindow (Nat.succ_pos before.length) hlt
  have hgain := mul_nonneg (sub_nonneg.mpr hinfluence) (sub_nonneg.mpr hle)
  linarith

/-- Two neighbours are exchanged into the order `r`. -/
inductive Exchanges (r : Rat → Rat → Prop) : List Rat → List Rat → Prop
  | neighbours (before after : List Rat) {first second : Rat} (h : r second first) :
    Exchanges r (before ++ first :: second :: after) (before ++ second :: first :: after)

section Sorting

variable {r : Rat → Rat → Prop}

theorem Exchanges.cons {values values' : List Rat} (h : Exchanges r values values') (value : Rat) :
    Exchanges r (value :: values) (value :: values') := by
  obtain ⟨before, after, h⟩ := h
  exact .neighbours (value :: before) after h

theorem Exchanges.swap {values values' : List Rat} (h : Exchanges r values values') :
    Exchanges (Function.swap r) values' values := by
  obtain ⟨before, after, h⟩ := h
  exact .neighbours before after h

theorem reflTransGen_cons {values values' : List Rat}
    (h : Relation.ReflTransGen (Exchanges r) values values') (value : Rat) :
    Relation.ReflTransGen (Exchanges r) (value :: values) (value :: values') :=
  Relation.ReflTransGen.lift (value :: ·) (fun _ _ h => h.cons value) _ _ h

variable [DecidableRel r] [Std.Total r]

private theorem reflTransGen_orderedInsert (value : Rat) (values : List Rat) :
    Relation.ReflTransGen (Exchanges r) (value :: values) (values.orderedInsert r value) := by
  induction values with
  | nil => exact .refl
  | cons first values ih =>
    rw [List.orderedInsert_cons]
    split
    · exact .refl
    next hnot =>
      have hfirst : r first value := (Std.Total.total first value).resolve_right hnot
      exact .head (.neighbours [] values hfirst) (reflTransGen_cons ih first)

private theorem reflTransGen_insertionSort (values : List Rat) :
    Relation.ReflTransGen (Exchanges r) values (values.insertionSort r) := by
  induction values with
  | nil => exact .refl
  | cons value values ih =>
    exact (reflTransGen_cons ih value).trans (reflTransGen_orderedInsert value _)

/-- Exchanges of neighbours lead to every arrangement that is sorted. -/
theorem reflTransGen_of_perm [Std.Antisymm r] [IsTrans Rat r] {values sorted : List Rat}
    (hperm : sorted.Perm values) (hsorted : sorted.Pairwise r) :
    Relation.ReflTransGen (Exchanges r) values sorted := by
  have heq : sorted = values.insertionSort r :=
    List.Perm.eq_of_pairwise' hsorted (List.pairwise_insertionSort r values)
      (hperm.trans (List.perm_insertionSort r values).symm)
  rw [heq]
  exact reflTransGen_insertionSort values

end Sorting

theorem decayedSum_le_of_reflTransGen (hwindow : 1 ≤ window) {values values' : List Rat}
    (h : Relation.ReflTransGen (Exchanges (· ≤ ·)) values values') :
    decayedSum window values (fun x => x) ≤ decayedSum window values' (fun x => x) := by
  induction h with
  | refl => exact le_refl _
  | tail _ hstep ih =>
    obtain ⟨before, after, hle⟩ := hstep
    exact ih.trans (decayedSum_le_of_exchange hwindow before after hle)

/-- Recent samples never count less than older ones. Whenever samples are recorded in two orders,
and whatever their clock readings are: if the orders differ in two neighbours, the mean is no
smaller where the larger of them comes later, and the mean of no order is above that of the
ascending one or below that of the descending one. -/
theorem recent_samples_count_most (hwindow : 1 ≤ window) :
    ∃ start : Average Rat, create window = .ok start ∧
      (∀ samples : List (Rat × Rat), ∃ a, start.appendAll samples = .ok a) ∧
      ∀ (samples samples' : List (Rat × Rat)) (a a' : Average Rat),
        start.appendAll samples = .ok a → start.appendAll samples' = .ok a' →
        (∀ before after first second, second ≤ first →
          samples.map (·.1) = before ++ first :: second :: after →
          samples'.map (·.1) = before ++ second :: first :: after → a.mean ≤ a'.mean) ∧
        ((samples'.map (·.1)).Perm (samples.map (·.1)) →
          ((samples'.map (·.1)).SortedLE → a.mean ≤ a'.mean) ∧
          ((samples'.map (·.1)).SortedGE → a'.mean ≤ a.mean)) := by
  refine ⟨initial window, create_rat hwindow, fun samples => ?_, ?_⟩
  · obtain ⟨a, ha, -⟩ := exists_hasMoments hwindow samples
    exact ⟨a, ha⟩
  · intro samples samples' a a' ha ha'
    have hmean := (hasMoments_of_appendAll hwindow ha).mean_eq
    have hmean' := (hasMoments_of_appendAll hwindow ha').mean_eq
    rw [hmean, hmean']
    refine ⟨?_, fun hperm => ⟨fun hsorted => ?_, fun hsorted => ?_⟩⟩
    · intro before after first second hle hsamples hsamples'
      rw [hsamples, hsamples']
      exact decayedSum_le_of_exchange hwindow before after hle
    · exact decayedSum_le_of_reflTransGen hwindow (reflTransGen_of_perm hperm hsorted.pairwise)
    · -- exchanges into the descending order are, read backwards, into the ascending one
      have hexchanges := (reflTransGen_of_perm hperm hsorted.pairwise).swap
      exact decayedSum_le_of_reflTransGen hwindow
        (Relation.ReflTransGen.mono (fun _ _ h => h.swap) _ _ hexchanges)

/-- Three samples in three orders: one exchange leads from the descending one to the first. -/
theorem recent_samples_count_most_three_samples :
    ∃ start a low high : Average Rat, create 3 = .ok start ∧
      start.appendAll [(10, 0), (2, 1), (4, 2)] = .ok a ∧
      start.appendAll [(10, 3), (4, 3), (2, 5)] = .ok low ∧
      start.appendAll [(2, 7), (4, 8), (10, 8)] = .ok high ∧
      low.mean ≤ a.mean ∧ a.mean ≤ high.mean ∧ low.mean ≤ high.mean := by
  obtain ⟨start, hstart, happend, horders⟩ :=
    recent_samples_count_most (show (1 : Int) ≤ 3 by decide)
  obtain ⟨a, ha⟩ := happend [(10, 0), (2, 1), (4, 2)]
  obtain ⟨low, hlow⟩ := happend [(10, 3), (4, 3), (2, 5)]
  obtain ⟨high, hhigh⟩ := happend [(2, 7), (4, 8), (10, 8)]
  obtain ⟨hexchange, -⟩ := horders _ _ low a hlow ha
  obtain ⟨-, hascending⟩ := horders _ _ a high ha hhigh
  obtain ⟨-, hdescending⟩ := horders _ _ high low hhigh hlow
  refine ⟨start, a, low, high, hstart, ha, hlow, hhigh, ?_, ?_, ?_⟩
  · exact hexchange [10] [] 4 2 (by decide) rfl rfl
  · exact (hascending (by decide)).1 (List.Pairwise.sortedLE (by decide))
  · exact (hdescending (by decide)).2 (List.Pairwise.sortedGE (by decide))

end SendMeter.Average
