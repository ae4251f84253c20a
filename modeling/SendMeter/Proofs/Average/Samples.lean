import Mathlib.Data.List.Induction
import Mathlib.Tactic.Linarith
import Mathlib.Tactic.Positivity
import Mathlib.Tactic.Ring
import SendMeter.Proofs.History.Recorded
import SendMeter.Proofs.Scalar.Rational

namespace SendMeter.Average

section Samples

variable {α : Type} [Scalar α]

/-- The average after samples in turn, each of them with its clock reading. -/
def appendAll (a : Average α) (samples : List (α × α)) : Except ArithmeticError (Average α) :=
  samples.foldlM (fun a sample => a.append sample.1 sample.2) a

theorem appendAll_append {a b : Average α} {samples : List (α × α)}
    (hb : a.appendAll samples = .ok b) (later : List (α × α)) :
    a.appendAll (samples ++ later) = b.appendAll later :=
  foldlM_append_of_ok hb later

theorem appendAll_concat {a b : Average α} {samples : List (α × α)}
    (hb : a.appendAll samples = .ok b) (value now : α) :
    a.appendAll (samples ++ [(value, now)]) = b.append value now :=
  foldlM_concat_of_ok hb (value, now)

end Samples

/-- The weight that the last of a number of samples is folded in with. -/
def sampleWeight (window : Int) (samples : Nat) : Rat :=
  max (2 / (window + 1)) (1 / samples)

section SampleWeight

variable {window : Int}

theorem steadyWeight_pos (hwindow : 1 ≤ window) : 0 < (2 : Rat) / (window + 1) := by
  have hterms : (0 : Rat) < window + 1 := by exact_mod_cast (by omega : 0 < window + 1)
  exact div_pos (by norm_num) hterms

theorem steadyWeight_le_one (hwindow : 1 ≤ window) : (2 : Rat) / (window + 1) ≤ 1 := by
  have hterms : (2 : Rat) ≤ window + 1 := by exact_mod_cast (by omega : 2 ≤ window + 1)
  rw [div_le_one (by linarith)]
  exact hterms

theorem sampleWeight_pos (hwindow : 1 ≤ window) (samples : Nat) : 0 < sampleWeight window samples :=
  lt_of_lt_of_le (steadyWeight_pos hwindow) (le_max_left _ _)

theorem sampleWeight_le_one (hwindow : 1 ≤ window) (samples : Nat) :
    sampleWeight window samples ≤ 1 := by
  refine max_le (steadyWeight_le_one hwindow) ?_
  cases samples with
  | zero => norm_num
  | succ n =>
    rw [div_le_one (by positivity)]
    exact_mod_cast Nat.succ_pos n

theorem one_sub_sampleWeight_nonneg (hwindow : 1 ≤ window) (samples : Nat) :
    0 ≤ 1 - sampleWeight window samples :=
  sub_nonneg.mpr (sampleWeight_le_one hwindow samples)

/-- From a window of two on, only the first sample takes all that there was. -/
theorem sampleWeight_lt_one (hwindow : 2 ≤ window) {samples : Nat} (hsamples : 2 ≤ samples) :
    sampleWeight window samples < 1 := by
  have hterms : (2 : Rat) < window + 1 := by exact_mod_cast (by omega : 2 < window + 1)
  have hsamples' : (1 : Rat) < samples := by exact_mod_cast hsamples
  refine max_lt ?_ ?_
  · rwa [div_lt_one (by linarith)]
  · rwa [div_lt_one (by linarith)]

/-- An early sample is folded in with its share in the samples so far. -/
theorem sampleWeight_of_cold {samples : Nat} (hpos : 0 < samples)
    (hcold : 2 * samples ≤ window + 1) : sampleWeight window samples = 1 / samples := by
  have hsamples : (0 : Rat) < samples := by exact_mod_cast hpos
  have hcold' : 2 * (samples : Rat) ≤ window + 1 := by exact_mod_cast hcold
  refine max_eq_right ?_
  rw [div_le_div_iff₀ (by linarith) hsamples]
  linarith

/-- A later sample is folded in with the weight that the window gives it. -/
theorem sampleWeight_of_warm (hwindow : 1 ≤ window) {samples : Nat}
    (hwarm : window + 1 ≤ 2 * samples) : sampleWeight window samples = 2 / (window + 1) := by
  have hterms : (0 : Rat) < window + 1 := by exact_mod_cast (by omega : 0 < window + 1)
  have hwarm' : (window + 1 : Rat) ≤ 2 * samples := by exact_mod_cast hwarm
  refine max_eq_left ?_
  rw [div_le_div_iff₀ (by linarith) hterms]
  linarith

theorem sampleWeight_one (hwindow : 1 ≤ window) : sampleWeight window 1 = 1 := by
  unfold sampleWeight
  rw [Nat.cast_one, div_one]
  exact max_eq_right (steadyWeight_le_one hwindow)

end SampleWeight

/-- An average whose long-run weight is that of its window, and whose variance is in range. -/
structure Tuned (window : Int) (a : Average Rat) : Prop where
  alpha_eq : a.alpha = 2 / (window + 1)
  variance_nonneg : 0 ≤ a.variance

variable {window : Int} {a : Average Rat}

/-- The average without samples, as it is created over the rationals. -/
def initial (window : Int) : Average Rat := empty window.toNat (2 / (window + 1))

@[simp] theorem initial_count (window : Int) : (initial window).count = 0 := rfl

@[simp] theorem initial_mean (window : Int) : (initial window).mean = 0 := rfl

@[simp] theorem initial_variance (window : Int) : (initial window).variance = 0 := rfl

theorem tuned_initial (window : Int) : Tuned window (initial window) :=
  ⟨rfl, le_refl 0⟩

theorem create_rat (hwindow : 1 ≤ window) :
    (create window : Except (HistoryError Rat) (Average Rat)) = .ok (initial window) := by
  have hterms : ((window + 1 : Int) : Rat) ≠ 0 := by exact_mod_cast (by omega : window + 1 ≠ 0)
  have hsteady : (steadyWeight window : Except ArithmeticError Rat) = .ok (2 / (window + 1)) := by
    change Scalar.divide (Scalar.two : Rat) ((window + 1 : Int) : Rat) = _
    rw [Scalar.divide_rat hterms, Scalar.two_rat]
    push_cast
    rfl
  simp only [create, if_neg (not_lt.mpr hwindow), hsteady]
  rfl

/-- A window that is accepted is positive. -/
theorem window_pos_of_create {α : Type} [Scalar α] {a : Average α} (h : create window = .ok a) :
    1 ≤ window := by
  by_contra hwindow
  rw [create, if_pos (not_le.mp hwindow)] at h
  cases h

theorem weight_rat (h : Tuned window a) {samples : Nat} (hsamples : samples ≠ 0) :
    a.weight samples = .ok (sampleWeight window samples) := by
  have hterms : (samples : Rat) ≠ 0 := by exact_mod_cast hsamples
  change (do
    let share ← Scalar.divide (1 : Rat) samples
    return Scalar.maximum a.alpha share) = _
  rw [Scalar.divide_rat hterms]
  change Except.ok (Scalar.maximum a.alpha (1 / (samples : Rat))) = _
  rw [Scalar.maximum_rat, h.alpha_eq, sampleWeight]

theorem blend_rat (h : Tuned window a) (value : Rat) {samples : Nat} (hsamples : samples ≠ 0) :
    a.blend value samples = .ok (a.fold (sampleWeight window samples) value) := by
  rw [blend, weight_rat h hsamples]
  rfl

/-- The average with one more sample in it, as it is where no number is refused. -/
def extended (window : Int) (a : Average Rat) (value now : Rat) : Average Rat :=
  { a.fold (sampleWeight window (a.count + 1)) value with
    count := a.count + 1
    lastUpdate := some now }

theorem append_rat (h : Tuned window a) (value now : Rat) :
    a.append value now = .ok (a.extended window value now) := by
  rw [append, blend_rat h value (Nat.succ_ne_zero _)]
  rfl

@[simp] theorem extended_count (value now : Rat) :
    (a.extended window value now).count = a.count + 1 := rfl

/-- The variance after a value is folded in, before it is guarded by the maximum. -/
def spread (a : Average Rat) (weight value : Rat) : Rat :=
  (1 - weight) * (a.variance + (value - a.mean) * (weight * (value - a.mean)))

theorem spread_nonneg (hvariance : 0 ≤ a.variance) {weight : Rat} (hpos : 0 ≤ weight)
    (hle : weight ≤ 1) (value : Rat) : 0 ≤ a.spread weight value := by
  have hrest : 0 ≤ 1 - weight := by linarith
  have hsquare : 0 ≤ (value - a.mean) * (weight * (value - a.mean)) := by
    have heq : (value - a.mean) * (weight * (value - a.mean)) =
        weight * (value - a.mean) ^ 2 := by ring
    rw [heq]
    positivity
  exact mul_nonneg hrest (by linarith)

theorem fold_variance_rat (a : Average Rat) (weight value : Rat) :
    (a.fold weight value).variance = max 0 (a.spread weight value) := by
  rw [← Scalar.maximum_rat]
  rfl

/-- The maximum that guards the variance against rounding has nothing to do. -/
theorem fold_variance_eq_spread (hvariance : 0 ≤ a.variance) {weight : Rat} (hpos : 0 ≤ weight)
    (hle : weight ≤ 1) (value : Rat) : (a.fold weight value).variance = a.spread weight value := by
  rw [fold_variance_rat]
  exact max_eq_right (spread_nonneg hvariance hpos hle value)

theorem extended_variance (hwindow : 1 ≤ window) (h : Tuned window a) (value now : Rat) :
    (a.extended window value now).variance =
      a.spread (sampleWeight window (a.count + 1)) value :=
  fold_variance_eq_spread h.variance_nonneg (sampleWeight_pos hwindow _).le
    (sampleWeight_le_one hwindow _) value

theorem Tuned.fold (h : Tuned window a) (weight value : Rat) :
    Tuned window (a.fold weight value) := by
  refine ⟨h.alpha_eq, ?_⟩
  rw [fold_variance_rat]
  exact le_max_left _ _

theorem Tuned.extended (h : Tuned window a) (value now : Rat) :
    Tuned window (a.extended window value now) :=
  have hfold := h.fold (sampleWeight window (a.count + 1)) value
  ⟨hfold.alpha_eq, hfold.variance_nonneg⟩

/-- An average whose samples are measured in another unit. -/
def scaled (unit : Rat) (a : Average Rat) : Average Rat :=
  { a with mean := unit * a.mean, variance := unit ^ 2 * a.variance }

@[simp] theorem scaled_initial (unit : Rat) (window : Int) :
    (initial window).scaled unit = initial window := by
  simp [scaled, initial, empty]

theorem fold_scaled (unit weight value : Rat) (a : Average Rat) :
    (a.scaled unit).fold weight (unit * value) = (a.fold weight value).scaled unit := by
  have hmean : ((a.scaled unit).fold weight (unit * value)).mean =
      unit * (a.fold weight value).mean := by
    simp only [fold_mean, scaled]
    ring
  have hvariance : ((a.scaled unit).fold weight (unit * value)).variance =
      unit ^ 2 * (a.fold weight value).variance := by
    have hspread : (a.scaled unit).spread weight (unit * value) =
        unit ^ 2 * a.spread weight value := by
      simp only [spread, scaled]
      ring
    rw [fold_variance_rat, fold_variance_rat, hspread, mul_max_of_nonneg _ _ (sq_nonneg unit),
      mul_zero]
  exact congrArg₂ (fun mean variance => ({ a with mean, variance } : Average Rat)) hmean hvariance

/-- A change of averages under which weights stay and one value takes the place of another. -/
theorem blend_map {α : Type} [Scalar α] {a : Average α} {f : Average α → Average α}
    {value value' : α} (hweight : ∀ samples, (f a).weight samples = a.weight samples)
    (hfold : ∀ weight, (f a).fold weight value' = f (a.fold weight value)) (samples : Nat) :
    (f a).blend value' samples = (a.blend value samples).map f := by
  unfold blend
  rw [hweight]
  cases a.weight samples with
  | error e => rfl
  | ok weight => exact congrArg Except.ok (hfold weight)

theorem blend_scaled (unit value : Rat) (a : Average Rat) (samples : Nat) :
    (a.scaled unit).blend (unit * value) samples = (a.blend value samples).map (scaled unit) :=
  blend_map (fun _ => rfl) (fun weight => fold_scaled unit weight value a) samples

/-- Over the rationals all samples are recorded, and what holds before them and is kept by each of
them holds after them. -/
theorem appendAll_induction (P : List (Rat × Rat) → Average Rat → Prop) (h : Tuned window a)
    (hstart : P [] a)
    (hstep : ∀ samples b value now, Tuned window b → b.count = a.count + samples.length →
      P samples b → P (samples ++ [(value, now)]) (b.extended window value now))
    (samples : List (Rat × Rat)) :
    ∃ b, a.appendAll samples = .ok b ∧ Tuned window b ∧ b.count = a.count + samples.length ∧
      P samples b := by
  induction samples using List.reverseRecOn with
  | nil => exact ⟨a, rfl, h, rfl, hstart⟩
  | append_singleton samples sample ih =>
    obtain ⟨b, hb, htuned, hcount, hP⟩ := ih
    refine ⟨_, (appendAll_concat hb sample.1 sample.2).trans (append_rat htuned _ _),
      htuned.extended _ _, ?_, hstep samples b _ _ htuned hcount hP⟩
    rw [extended_count, hcount, List.length_append, List.length_singleton]
    omega

end SendMeter.Average
