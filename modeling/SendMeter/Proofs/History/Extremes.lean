import SendMeter.Proofs.Average.Floats

namespace SendMeter

open Binary64

namespace Durations

/-- The durations that lead from one history to another, whenever they were recorded. -/
inductive Records {α : Type} [Scalar α] (new : Durations α) : List α → Durations α → Prop
  | nil : Records new [] new
  | concat {values : List α} {d e : Durations α} {value now : α} :
    Records new values d → d.append value now = .ok e → Records new (values ++ [value]) e

/-- All statistics are in order, as floats are compared. -/
structure Ordered (d : Durations Float) : Prop where
  zero_le : 0 ≤ d.minimum
  minimum_le : d.minimum ≤ d.average.mean
  le_maximum : d.average.mean ≤ d.maximum

/-- Durations that leave the statistics in order. -/
def Orderly (values : List Float) : Prop :=
  (∀ value ∈ values.dropLast, value.isFinite = true) ∧
    ∀ value ∈ values.getLast?, value.isNaN = false

theorem orderly_of_isFinite {values : List Float}
    (h : ∀ value ∈ values, value.isFinite = true) : Orderly values :=
  ⟨fun value hvalue => h value (List.dropLast_subset values hvalue),
    fun value hvalue => isNaN_of_isFinite (h value (List.mem_of_getLast? hvalue))⟩

theorem orderly_concat_iff {values : List Float} {value : Float} :
    Orderly (values ++ [value]) ↔
      (∀ value ∈ values, value.isFinite = true) ∧ value.isNaN = false := by
  simp [Orderly]

/-- A history all of whose durations were finite: the mean is finite, and both extremes are numbers
on the right side of the infinities. -/
structure IsFinite (d : Durations Float) : Prop where
  alpha : Average.IsWeight d.average.alpha
  mean : d.average.mean.isFinite = true
  shortest : ∃ low, d.shortest = some low ∧ low.isNaN = false ∧ 0 ≤ toRat low
  longest : ∃ high, d.longest = some high ∧ high.isNaN = false ∧ toRat high < limit

variable {d e : Durations Float} {value now : Float}

theorem isFinite_of_create {window : Int} (h : create window = .ok d) : d.IsFinite := by
  obtain ⟨average, haverage, rfl⟩ := map_eq_ok_iff.mp h
  have halpha := Average.isWeight_alpha haverage
  obtain ⟨-, alpha, -, rfl⟩ := Average.create_eq_ok haverage
  have hlimit := limit_pos
  have htop : toRat (1 / 0) = limit := toRat_of_unpack_top rfl
  have hbottom : toRat (-1 / 0) = -limit := toRat_of_unpack_bottom rfl
  refine ⟨halpha, isFinite_zero, ⟨_, rfl, rfl, ?_⟩, ⟨_, rfl, rfl, ?_⟩⟩
  · exact htop ▸ hlimit.le
  · exact hbottom ▸ by linarith

private theorem clamp_of_isNaN {low high mean : Float} (h : mean.isNaN = true) :
    (clamp low high mean).isNaN = true := by
  have hmaximum : Scalar.maximum mean low = mean := by
    rw [Scalar.maximum, if_neg (not_lt_of_isNaN_left h low)]
  have hminimum : Scalar.minimum mean high = mean := by
    rw [Scalar.minimum, if_neg (not_lt_of_isNaN_right high h)]
  rwa [clamp, hmaximum, hminimum]

/-- A mean that is a number is moved between the extremes. -/
theorem clamp_bounds {low high mean : Float} (hlow : low.isNaN = false) (hhigh : high.isNaN = false)
    (hmean : mean.isNaN = false) (hle : toRat low ≤ toRat high) :
    (clamp low high mean).isNaN = false ∧
      toRat (clamp low high mean) = min (max (toRat mean) (toRat low)) (toRat high) ∧
      toRat low ≤ toRat (clamp low high mean) ∧ toRat (clamp low high mean) ≤ toRat high := by
  have hmaximum := Scalar.isNaN_maximum hmean hlow
  have hvalue : toRat (clamp low high mean) =
      min (max (toRat mean) (toRat low)) (toRat high) := by
    rw [clamp, Scalar.toRat_minimum hmaximum hhigh, Scalar.toRat_maximum hmean hlow]
  refine ⟨Scalar.isNaN_minimum hmaximum hhigh, hvalue, ?_, ?_⟩
  · rw [hvalue]
    exact le_min (le_max_right _ _) hle
  · rw [hvalue]
    exact min_le_right _ _

/-- After a duration, the statistics are those of what it left. -/
theorem ordered_iff_of_append (h : d.append value now = .ok e) :
    e.Ordered ↔ 0 ≤ lowered d.shortest value ∧ lowered d.shortest value ≤ e.average.mean ∧
      e.average.mean ≤ raised d.longest value := by
  obtain ⟨average, haverage, rfl⟩ := append_eq_ok h
  have hcount := Average.count_of_append haverage
  have hne : average.count ≠ 0 := by omega
  have hminimum (x : Float) : (if average.count = 0 then Scalar.zero else x) = x := if_neg hne
  constructor
  · rintro ⟨hzero, hle, hle'⟩
    simp only [minimum, maximum, hminimum, Option.getD_some] at hzero hle hle'
    exact ⟨hzero, hle, hle'⟩
  · rintro ⟨hzero, hle, hle'⟩
    refine ⟨?_, ?_, ?_⟩ <;> simpa only [minimum, maximum, hminimum, Option.getD_some]

section Append

variable (hd : d.IsFinite) (hvalue : value.isNaN = false) (hnonneg : 0 ≤ toRat value)
include hd hvalue hnonneg

theorem IsFinite.lowered : (lowered d.shortest value).isNaN = false ∧
    0 ≤ toRat (lowered d.shortest value) ∧ toRat (lowered d.shortest value) ≤ toRat value := by
  obtain ⟨low, hlow, hnan, hzero⟩ := hd.shortest
  rw [hlow, Durations.lowered, Option.elim_some, Scalar.toRat_minimum hnan hvalue]
  exact ⟨Scalar.isNaN_minimum hnan hvalue, le_min hzero hnonneg, min_le_right _ _⟩

omit hnonneg in
theorem IsFinite.raised : (raised d.longest value).isNaN = false ∧
    toRat value ≤ toRat (raised d.longest value) ∧
    (toRat value < limit → toRat (raised d.longest value) < limit) := by
  obtain ⟨high, hhigh, hnan, hlt⟩ := hd.longest
  rw [hhigh, Durations.raised, Option.elim_some, Scalar.toRat_maximum hnan hvalue]
  exact ⟨Scalar.isNaN_maximum hnan hvalue, le_max_right _ _, fun h => max_lt hlt h⟩

/-- A duration that is a number is folded into a finite mean to a number. -/
theorem IsFinite.unclamped {average : Average Float}
    (h : d.average.append value now = .ok average) :
    average.mean.isNaN = false ∧ average.alpha = d.average.alpha ∧
      (toRat value = limit → toRat average.mean = limit) := by
  have hlimit := limit_pos
  obtain ⟨weight, hweight, rfl⟩ := Average.append_eq_ok h
  have hweight := Average.isWeight_weight hd.alpha (Nat.succ_pos _) hweight
  obtain hfinite | htop | hbottom := toRat_cases hvalue
  · refine ⟨Average.isNaN_mean_fold hweight hd.mean hfinite, rfl, fun htop => ?_⟩
    rw [isFinite_iff hvalue, htop, abs_of_pos hlimit] at hfinite
    exact absurd hfinite (lt_irrefl _)
  · have hmean := Average.toRat_mean_fold_of_top hweight hd.mean htop
    exact ⟨isNaN_of_toRat_ne_zero (hmean ▸ hlimit.ne'), rfl, fun _ => hmean⟩
  · linarith

/-- The statistics are in order after a duration that is a number, infinite or not. -/
theorem IsFinite.ordered (h : d.append value now = .ok e) : e.Ordered := by
  obtain ⟨hlow, hzero, hlow_le⟩ := hd.lowered hvalue hnonneg
  obtain ⟨hhigh, hle_high, -⟩ := hd.raised hvalue
  rw [ordered_iff_of_append h]
  obtain ⟨average, haverage, rfl⟩ := append_eq_ok h
  obtain ⟨hmean, -, -⟩ := hd.unclamped hvalue hnonneg haverage
  obtain ⟨hclamp, -, hle, hle'⟩ := clamp_bounds hlow hhigh hmean (hlow_le.trans hle_high)
  refine ⟨?_, ?_, ?_⟩
  · rwa [le_iff isNaN_zero hlow, toRat_zero]
  · rwa [le_iff hlow hclamp]
  · rwa [le_iff hclamp hhigh]

/-- An infinite duration becomes the mean. -/
theorem IsFinite.mean_of_top (htop : toRat value = limit) (h : d.append value now = .ok e) :
    toRat e.average.mean = limit ∧ e.average.alpha = d.average.alpha := by
  obtain ⟨hlow, -, hlow_le⟩ := hd.lowered hvalue hnonneg
  obtain ⟨hhigh, hle_high, -⟩ := hd.raised hvalue
  obtain ⟨average, haverage, rfl⟩ := append_eq_ok h
  obtain ⟨hmean, halpha, hmean_top⟩ := hd.unclamped hvalue hnonneg haverage
  obtain ⟨-, heq, -⟩ := clamp_bounds hlow hhigh hmean (hlow_le.trans hle_high)
  have hrange := (le_abs_self _).trans (abs_toRat_le (Durations.raised d.longest value))
  refine ⟨?_, halpha⟩
  rw [heq, hmean_top htop, max_eq_left (by linarith)]
  exact min_eq_left (by linarith)

end Append

/-- A finite duration leaves finite statistics. -/
theorem IsFinite.append (hd : d.IsFinite) (hvalue : value.isFinite = true)
    (hnonneg : 0 ≤ toRat value) (h : d.append value now = .ok e) : e.IsFinite := by
  have hnan := isNaN_of_isFinite hvalue
  have hlt := (le_abs_self _).trans_lt ((isFinite_iff hnan).mp hvalue)
  obtain ⟨hlow, hzero, hlow_le⟩ := hd.lowered hnan hnonneg
  obtain ⟨hhigh, hle_high, hhigh_lt⟩ := hd.raised hnan
  obtain ⟨average, haverage, rfl⟩ := append_eq_ok h
  obtain ⟨hmean, halpha, -⟩ := hd.unclamped hnan hnonneg haverage
  obtain ⟨hclamp, -, hle, hle'⟩ := clamp_bounds hlow hhigh hmean (hlow_le.trans hle_high)
  refine ⟨halpha ▸ hd.alpha, ?_, ⟨_, rfl, hlow, hzero⟩, ⟨_, rfl, hhigh, hhigh_lt hlt⟩⟩
  have hbelow := hle'.trans_lt (hhigh_lt hlt)
  exact (isFinite_iff hclamp).mpr (abs_lt.mpr ⟨by linarith [limit_pos], hbelow⟩)

/-- A mean that is no number stays none. -/
theorem isNaN_mean_append (h : d.append value now = .ok e)
    (hlost : ∀ weight, d.average.weight (d.average.count + 1) = .ok weight →
      (d.average.fold weight value).mean.isNaN = true) : e.average.mean.isNaN = true := by
  obtain ⟨average, haverage, rfl⟩ := append_eq_ok h
  obtain ⟨weight, hweight, rfl⟩ := Average.append_eq_ok haverage
  exact clamp_of_isNaN (hlost weight hweight)

private theorem not_ordered_of_isNaN (h : e.average.mean.isNaN = true) : ¬ e.Ordered :=
  fun hordered =>
  not_le_of_isNaN_right _ h hordered.minimum_le

/-- What durations in turn make of the statistics: they are finite and in order, or the last
duration was the first that was infinite and they are in order still, or there is no mean. -/
theorem cases_of_records {window : Int} {new : Durations Float} (hnew : create window = .ok new)
    {values : List Float} (hvalues : ∀ value ∈ values, ¬ value < 0) (h : Records new values d) :
    ((∀ value ∈ values, value.isFinite = true) ∧ d.IsFinite ∧ (values ≠ [] → d.Ordered)) ∨
    (Orderly values ∧ (¬ ∀ value ∈ values, value.isFinite = true) ∧ d.Ordered ∧
      Average.IsWeight d.average.alpha ∧ toRat d.average.mean = limit) ∨
    (¬ Orderly values ∧ d.average.mean.isNaN = true) := by
  induction h with
  | nil =>
    exact .inl ⟨by simp, isFinite_of_create hnew, fun hne => absurd rfl hne⟩
  | @concat values d e value now h happend ih =>
    rw [List.forall_mem_append, List.forall_mem_singleton] at hvalues
    obtain ⟨hvalues, hnonneg⟩ := hvalues
    have hlimit := limit_pos
    obtain ⟨hall, hd, -⟩ | ⟨-, hnot, -, halpha, hmean⟩ | ⟨hnot, hmean⟩ := ih hvalues
    · cases hnan : value.isNaN with
      | true =>
        refine .inr (.inr ⟨fun horderly => ?_, isNaN_mean_append happend fun weight _ => ?_⟩)
        · exact Bool.false_ne_true ((orderly_concat_iff.mp horderly).2.symm.trans hnan)
        · exact Average.isNaN_mean_fold_right hnan
      | false =>
        rw [lt_iff hnan isNaN_zero, toRat_zero, not_lt] at hnonneg
        have hordered := hd.ordered hnan hnonneg happend
        obtain hfinite | htop | hbottom := toRat_cases hnan
        · refine .inl ⟨?_, hd.append hfinite hnonneg happend, fun _ => hordered⟩
          rw [List.forall_mem_append, List.forall_mem_singleton]
          exact ⟨hall, hfinite⟩
        · obtain ⟨hmean, halpha⟩ := hd.mean_of_top hnan hnonneg htop happend
          refine .inr (.inl ⟨orderly_concat_iff.mpr ⟨hall, hnan⟩, ?_, hordered, halpha ▸ hd.alpha,
            hmean⟩)
          rw [List.forall_mem_append, List.forall_mem_singleton, isFinite_iff hnan, htop,
            abs_of_pos hlimit]
          exact fun hfinite => lt_irrefl _ hfinite.2
        · linarith
    · refine .inr (.inr ⟨fun horderly => hnot (orderly_concat_iff.mp horderly).1,
        isNaN_mean_append happend fun weight hweight => ?_⟩)
      exact Average.isNaN_mean_fold_of_top
        (Average.isWeight_weight halpha (Nat.succ_pos _) hweight) hmean hnonneg
    · refine .inr (.inr ⟨fun horderly =>
        hnot (orderly_of_isFinite (orderly_concat_iff.mp horderly).1),
        isNaN_mean_append happend fun weight _ => ?_⟩)
      exact Average.isNaN_mean_fold_left hmean

/-- The statistics are in order exactly as long as no duration follows an infinite one, and none is
no number. -/
theorem ordered_iff_of_records {window : Int} {new : Durations Float}
    (hnew : create window = .ok new) {values : List Float}
    (hvalues : ∀ value ∈ values, ¬ value < 0) (hne : values ≠ []) (h : Records new values d) :
    d.Ordered ↔ Orderly values := by
  obtain ⟨hall, -, hordered⟩ | ⟨horderly, -, hordered, -⟩ | ⟨hnot, hmean⟩ :=
    cases_of_records hnew hvalues h
  · exact iff_of_true (hordered hne) (orderly_of_isFinite hall)
  · exact iff_of_true hordered horderly
  · exact iff_of_false (not_ordered_of_isNaN hmean) hnot

end Durations

end SendMeter
