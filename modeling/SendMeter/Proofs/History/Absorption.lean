import SendMeter.Proofs.History.Clamping
import SendMeter.Proofs.History.Extremes

namespace SendMeter

open Binary64

namespace Durations

/-- A float of a list that none of the list is below. -/
structure IsSmallest (values : List Float) (low : Float) : Prop where
  mem : low ∈ values
  le : ∀ value ∈ values, low ≤ value

/-- A float of a list that none of the list is above. -/
structure IsLargest (values : List Float) (high : Float) : Prop where
  mem : high ∈ values
  le : ∀ value ∈ values, value ≤ high

section Extremes

variable {values : List Float} {low high value : Float}

theorem IsSmallest.concat (h : IsSmallest values low) (hvalue : value.isNaN = false) :
    IsSmallest (values ++ [value]) (Scalar.minimum low value) := by
  obtain ⟨hnot, heq⟩ | ⟨hlt, heq⟩ := Scalar.minimum_cases low value
  · have hlow := (isNaN_of_le (h.le low h.mem)).1
    rw [heq]
    refine ⟨List.mem_append_left _ h.mem, ?_⟩
    rw [List.forall_mem_append, List.forall_mem_singleton]
    exact ⟨h.le, Binary64.le_of_not_lt hlow hvalue hnot⟩
  · have hself : value ≤ value := (le_iff hvalue hvalue).mpr le_rfl
    rw [heq]
    refine ⟨by simp, ?_⟩
    rw [List.forall_mem_append, List.forall_mem_singleton]
    exact ⟨fun x hx => Binary64.le_trans (Binary64.le_of_lt hlt) (h.le x hx), hself⟩

theorem IsLargest.concat (h : IsLargest values high) (hvalue : value.isNaN = false) :
    IsLargest (values ++ [value]) (Scalar.maximum high value) := by
  obtain ⟨hnot, heq⟩ | ⟨hlt, heq⟩ := Scalar.maximum_cases high value
  · have hhigh := (isNaN_of_le (h.le high h.mem)).1
    rw [heq]
    refine ⟨List.mem_append_left _ h.mem, ?_⟩
    rw [List.forall_mem_append, List.forall_mem_singleton]
    exact ⟨h.le, Binary64.le_of_not_lt hvalue hhigh hnot⟩
  · have hself : value ≤ value := (le_iff hvalue hvalue).mpr le_rfl
    rw [heq]
    refine ⟨by simp, ?_⟩
    rw [List.forall_mem_append, List.forall_mem_singleton]
    exact ⟨fun x hx => Binary64.le_trans (h.le x hx) (Binary64.le_of_lt hlt), hself⟩

/-- The infinity above all values goes as soon as there is a finite one. -/
theorem IsSmallest.of_cons_top (h : IsSmallest (1 / 0 :: values) low) (hmem : value ∈ values)
    (hvalue : value.isFinite = true) : IsSmallest values low := by
  have hle := h.le value (List.mem_cons_of_mem _ hmem)
  obtain rfl | hlow := List.mem_cons.mp h.mem
  · exact absurd hle (not_top_le hvalue)
  · exact ⟨hlow, fun x hx => h.le x (List.mem_cons_of_mem _ hx)⟩

theorem IsLargest.of_cons_bottom (h : IsLargest (-1 / 0 :: values) high) (hmem : value ∈ values)
    (hvalue : value.isFinite = true) : IsLargest values high := by
  have hle := h.le value (List.mem_cons_of_mem _ hmem)
  obtain rfl | hhigh := List.mem_cons.mp h.mem
  · exact absurd hle (not_le_bottom hvalue)
  · exact ⟨hhigh, fun x hx => h.le x (List.mem_cons_of_mem _ hx)⟩

end Extremes

/-- The durations after one more of them, once it is in the average. -/
def settle {α : Type} [Scalar α] (d : Durations α) (value : α) (average : Average α) :
    Durations α :=
  let low := lowered d.shortest value
  let high := raised d.longest value
  { average := { average with mean := clamp low high average.mean }
    shortest := some low
    longest := some high }

private theorem append_eq_map_settle {α : Type} [Scalar α] (d : Durations α) (value now : α) :
    d.append value now = (d.average.append value now).map (d.settle value) := rfl

/-- A finite duration, and what the arithmetic of the average leaves when it is recorded: any number
as the mean, infinite or not, and anything as the variance. -/
structure Rough where
  value : Float
  now : Float
  mean : Float
  variance : Float
  isFinite_value : value.isFinite = true
  isNaN_mean : mean.isNaN = false

def appendRough (d : Durations Float) (s : Rough) : Durations Float :=
  d.settle s.value { d.average with
    count := d.average.count + 1
    mean := s.mean
    variance := s.variance
    lastUpdate := some s.now }

def appendAllRough (d : Durations Float) (steps : List Rough) : Durations Float :=
  steps.foldl appendRough d

/-- What durations keep of finite values, whatever the arithmetic has left of each mean. Before
there is a value, the extremes are the infinities. -/
structure Absorbs (values : List Float) (d : Durations Float) : Prop where
  count_eq : d.average.count = values.length
  isWeight_alpha : Average.IsWeight d.average.alpha
  isFinite_values : ∀ value ∈ values, value.isFinite = true
  shortest : ∃ low, d.shortest = some low ∧ IsSmallest (1 / 0 :: values) low
  longest : ∃ high, d.longest = some high ∧ IsLargest (-1 / 0 :: values) high
  isFinite_mean : d.average.mean.isFinite = true
  mean_bounds : values ≠ [] → d.minimum ≤ d.average.mean ∧ d.average.mean ≤ d.maximum

theorem absorbs_of_create {window : Int} {new : Durations Float} (hnew : create window = .ok new) :
    Absorbs [] new := by
  have hfinite := isFinite_of_create hnew
  obtain ⟨average, haverage, rfl⟩ := map_eq_ok_iff.mp hnew
  refine ⟨Average.count_of_create haverage, hfinite.alpha, by simp, ⟨1 / 0, rfl, ?_⟩,
    ⟨-1 / 0, rfl, ?_⟩, hfinite.mean, fun hne => absurd rfl hne⟩
  · exact ⟨by simp, by simpa using (le_iff (x := 1 / 0) rfl rfl).mpr le_rfl⟩
  · exact ⟨by simp, by simpa using (le_iff (x := -1 / 0) rfl rfl).mpr le_rfl⟩

section Step

variable {values : List Float} {d : Durations Float} {value : Float}

theorem minimum_of_count_pos {low : Float} (hcount : d.average.count ≠ 0)
    (h : d.shortest = some low) : d.minimum = low := by
  rw [minimum, if_neg hcount, h, Option.getD_some]

theorem maximum_of_count_pos {high : Float} (hcount : d.average.count ≠ 0)
    (h : d.longest = some high) : d.maximum = high := by
  rw [maximum, if_neg hcount, h, Option.getD_some]

/-- A mean that is a number is moved between two extremes. -/
theorem clamp_between {low high mean : Float} (hle : low ≤ high) (hmean : mean.isNaN = false) :
    low ≤ clamp low high mean ∧ clamp low high mean ≤ high := by
  obtain ⟨hlow, hhigh⟩ := isNaN_of_le hle
  obtain ⟨hclamp, -, hle, hle'⟩ := clamp_bounds hlow hhigh hmean ((le_iff hlow hhigh).mp hle)
  exact ⟨(le_iff hlow hclamp).mpr hle, (le_iff hclamp hhigh).mpr hle'⟩

theorem Absorbs.count_ne_zero (h : Absorbs values d) (hne : values ≠ []) :
    d.average.count ≠ 0 := by
  rw [h.count_eq]
  exact (List.length_pos_iff.mpr hne).ne'

theorem Absorbs.isSmallest (h : Absorbs values d) (hne : values ≠ []) :
    d.shortest = some d.minimum ∧ IsSmallest values d.minimum := by
  obtain ⟨low, hlow, hsmallest⟩ := h.shortest
  obtain ⟨value, hmem⟩ := List.exists_mem_of_ne_nil values hne
  rw [minimum_of_count_pos (h.count_ne_zero hne) hlow]
  exact ⟨hlow, hsmallest.of_cons_top hmem (h.isFinite_values value hmem)⟩

theorem Absorbs.isLargest (h : Absorbs values d) (hne : values ≠ []) :
    d.longest = some d.maximum ∧ IsLargest values d.maximum := by
  obtain ⟨high, hhigh, hlargest⟩ := h.longest
  obtain ⟨value, hmem⟩ := List.exists_mem_of_ne_nil values hne
  rw [maximum_of_count_pos (h.count_ne_zero hne) hhigh]
  exact ⟨hhigh, hlargest.of_cons_bottom hmem (h.isFinite_values value hmem)⟩

theorem Absorbs.lowered (h : Absorbs values d) (hvalue : value.isFinite = true) :
    IsSmallest (1 / 0 :: (values ++ [value])) (lowered d.shortest value) ∧
      IsSmallest (values ++ [value]) (lowered d.shortest value) := by
  obtain ⟨low, hlow, hsmallest⟩ := h.shortest
  have hlowered := hsmallest.concat (isNaN_of_isFinite hvalue)
  rw [hlow]
  exact ⟨hlowered, hlowered.of_cons_top (by simp) hvalue⟩

theorem Absorbs.raised (h : Absorbs values d) (hvalue : value.isFinite = true) :
    IsLargest (-1 / 0 :: (values ++ [value])) (raised d.longest value) ∧
      IsLargest (values ++ [value]) (raised d.longest value) := by
  obtain ⟨high, hhigh, hlargest⟩ := h.longest
  have hraised := hlargest.concat (isNaN_of_isFinite hvalue)
  rw [hhigh]
  exact ⟨hraised, hraised.of_cons_bottom (by simp) hvalue⟩

theorem Absorbs.appendRough (h : Absorbs values d) (s : Rough) :
    Absorbs (values ++ [s.value]) (d.appendRough s) := by
  have hfinite : ∀ value ∈ values ++ [s.value], value.isFinite = true := by
    rw [List.forall_mem_append, List.forall_mem_singleton]
    exact ⟨h.isFinite_values, s.isFinite_value⟩
  have hmem : s.value ∈ values ++ [s.value] := by simp
  obtain ⟨hlowered, hsmallest⟩ := h.lowered s.isFinite_value
  obtain ⟨hraised, hlargest⟩ := h.raised s.isFinite_value
  have hrange := Binary64.le_trans (hsmallest.le _ hmem) (hlargest.le _ hmem)
  obtain ⟨hle, hle'⟩ := clamp_between hrange s.isNaN_mean
  refine ⟨?_, h.isWeight_alpha, hfinite, ⟨_, rfl, hlowered⟩, ⟨_, rfl, hraised⟩, ?_, fun _ => ?_⟩
  · rw [List.length_append, ← h.count_eq]
    rfl
  · exact isFinite_of_le_of_le (hfinite _ hsmallest.mem) (hfinite _ hlargest.mem) hle hle'
  · rw [minimum_of_count_pos (Nat.succ_ne_zero _) rfl,
      maximum_of_count_pos (Nat.succ_ne_zero _) rfl]
    exact ⟨hle, hle'⟩

theorem Absorbs.appendAllRough {new : Durations Float} (h : Absorbs [] new) (steps : List Rough) :
    Absorbs (steps.map (·.value)) (new.appendAllRough steps) := by
  induction steps using List.reverseRecOn with
  | nil => exact h
  | append_singleton steps s ih =>
    rw [List.map_append, Durations.appendAllRough, List.foldl_concat]
    exact ih.appendRough s

/-- The arithmetic of the floats leaves a number as the mean, and refuses nothing that it can
count. -/
theorem Absorbs.exists_append (h : Absorbs values d) (hvalue : value.isFinite = true)
    (hcount : values.length + 1 < 2 ^ 1023) (now : Float) :
    ∃ s : Rough, s.value = value ∧ s.now = now ∧ d.append value now = .ok (d.appendRough s) := by
  obtain ⟨average, haverage⟩ := Average.exists_append countsBelow h.count_eq.le hcount value now
  obtain ⟨weight, hweight, rfl⟩ := Average.append_eq_ok haverage
  have hmean := Average.isNaN_mean_fold
    (Average.isWeight_weight h.isWeight_alpha (Nat.succ_pos _) hweight) h.isFinite_mean hvalue
  refine ⟨⟨value, now, _, (d.average.fold weight value).variance, hvalue, hmean⟩, rfl, rfl, ?_⟩
  rw [append_eq_map_settle, haverage]
  rfl

end Step

/-- Finite durations are recorded, and each time the arithmetic of the average leaves any number as
the mean, infinite or not. After each of them the shortest duration is the smallest and the longest
one the largest so far, and the mean is a finite float between them, so that its difference to the
next finite duration is a number, too. The arithmetic of the floats is a case of this, for as many
durations as they can count: it refuses none of them, and leaves a number each time. -/
theorem clamp_absorbs_rounding {window : Int} {new : Durations Float}
    (hnew : create window = .ok new) :
    (∀ (steps : List Rough) (d : Durations Float), steps ≠ [] → new.appendAllRough steps = d →
      d.average.count = steps.length ∧
      d.shortest = some d.minimum ∧ IsSmallest (steps.map (·.value)) d.minimum ∧
      d.longest = some d.maximum ∧ IsLargest (steps.map (·.value)) d.maximum ∧
      d.minimum ≤ d.average.mean ∧ d.average.mean ≤ d.maximum ∧
      d.average.mean.isFinite = true ∧
      ∀ value : Float, value.isFinite = true → (value - d.average.mean).isNaN = false) ∧
    ∀ samples : List (Float × Float), (∀ sample ∈ samples, sample.1.isFinite = true) →
      samples.length < 2 ^ 1023 →
      ∃ steps : List Rough, steps.map (fun s => (s.value, s.now)) = samples ∧
        new.appendAll samples = .ok (new.appendAllRough steps) := by
  have habsorbs := (absorbs_of_create hnew).appendAllRough
  refine ⟨?_, fun samples hfinite hlength => ?_⟩
  · rintro steps _ hne rfl
    have hvalues : steps.map (·.value) ≠ [] := by simpa using hne
    have h := habsorbs steps
    obtain ⟨hshortest, hsmallest⟩ := h.isSmallest hvalues
    obtain ⟨hlongest, hlargest⟩ := h.isLargest hvalues
    obtain ⟨hle, hle'⟩ := h.mean_bounds hvalues
    refine ⟨by rw [h.count_eq, List.length_map], hshortest, hsmallest, hlongest, hlargest, hle,
      hle', h.isFinite_mean, fun value hvalue => ?_⟩
    exact (roundsTo_sub hvalue h.isFinite_mean).isNaN_eq
  · induction samples using List.reverseRecOn with
    | nil => exact ⟨[], rfl, rfl⟩
    | append_singleton samples sample ih =>
      rw [List.length_append, List.length_singleton] at hlength
      rw [List.forall_mem_append, List.forall_mem_singleton] at hfinite
      obtain ⟨steps, rfl, hsteps⟩ := ih hfinite.1 (by omega)
      rw [List.length_map] at hlength
      obtain ⟨s, hvalue, hnow, happend⟩ := (habsorbs steps).exists_append hfinite.2
        (by rwa [List.length_map]) sample.2
      refine ⟨steps ++ [s], by simp [hvalue, hnow], ?_⟩
      rw [appendAll_concat hsteps, happend, Durations.appendAllRough, Durations.appendAllRough,
        List.foldl_concat]

/-- Three durations with arithmetic that leaves infinity, then its negative, then a number that is
too large. -/
def wild : List Rough := [
  ⟨1, 0, 1 / 0, 0, rfl, rfl⟩,
  ⟨3, 1, -1 / 0, 0, rfl, rfl⟩,
  ⟨2, 2, 7, 1 / 0, rfl, rfl⟩]

theorem clamp_absorbs_rounding_wild :
    ∃ new d : Durations Float, create 10 = .ok new ∧ new.appendAllRough wild = d ∧
      IsSmallest [1, 3, 2] d.minimum ∧ IsLargest [1, 3, 2] d.maximum ∧
      d.minimum ≤ d.average.mean ∧ d.average.mean ≤ d.maximum ∧
      d.average.mean.isFinite = true ∧ (4 - d.average.mean).isNaN = false := by
  obtain ⟨new, hnew⟩ : ∃ new : Durations Float, create 10 = .ok new := ⟨_, rfl⟩
  obtain ⟨hrough, -⟩ := clamp_absorbs_rounding hnew
  obtain ⟨-, -, hsmallest, -, hlargest, hle, hle', hfinite, hdifference⟩ :=
    hrough wild (new.appendAllRough wild) (by simp [wild]) rfl
  exact ⟨new, _, hnew, rfl, hsmallest, hlargest, hle, hle', hfinite, hdifference 4 rfl⟩

end Durations

end SendMeter
