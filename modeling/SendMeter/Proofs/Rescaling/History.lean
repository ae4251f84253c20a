import Mathlib.Tactic.Ring
import SendMeter.Proofs.Average.Samples
import SendMeter.Proofs.History.Recorded

namespace SendMeter

/-- A clock that shows `factor * t + shift` when another one shows `t`. -/
structure Rescaling where
  factor : Rat
  shift : Rat
  factor_pos : 0 < factor

namespace Rescaling

variable (c : Rescaling)

/-- A reading of the clock. -/
def reading (t : Rat) : Rat := c.factor * t + c.shift

/-- A span of time. -/
def span (d : Rat) : Rat := c.factor * d

theorem reading_sub (t u : Rat) : c.reading t - c.reading u = c.span (t - u) := by
  simp only [reading, span]
  ring

@[simp] theorem span_zero : c.span 0 = 0 := mul_zero c.factor

@[simp] theorem span_lt_zero_iff (d : Rat) : c.span d < 0 ↔ d < 0 := by
  rw [← not_le, ← not_le, span, mul_nonneg_iff_of_pos_left c.factor_pos]

@[simp] theorem span_pos_iff (d : Rat) : 0 < c.span d ↔ 0 < d :=
  mul_pos_iff_of_pos_left c.factor_pos

@[simp] theorem span_le_zero_iff (d : Rat) : c.span d ≤ 0 ↔ d ≤ 0 := by
  rw [← not_lt, ← not_lt, span_pos_iff]

theorem max_span (d e : Rat) : max (c.span d) (c.span e) = c.span (max d e) :=
  (mul_max_of_nonneg d e c.factor_pos.le).symm

theorem min_span (d e : Rat) : min (c.span d) (c.span e) = c.span (min d e) :=
  (mul_min_of_nonneg d e c.factor_pos.le).symm

theorem span_add (d e : Rat) : c.span d + c.span e = c.span (d + e) :=
  (mul_add c.factor d e).symm

theorem mul_span (x d : Rat) : x * c.span d = c.span (x * d) :=
  mul_left_comm x c.factor d

theorem span_div (d x : Rat) : c.span d / x = c.span (d / x) :=
  mul_div_assoc c.factor d x

/-- The share that one span has of another does not depend on the clock. -/
theorem divide_span (d e : Rat) :
    Scalar.divide (c.span d) (c.span e) = (Scalar.divide d e : Except ArithmeticError Rat) :=
  Scalar.divide_mul_left c.factor_pos.ne' d e

/-- An average whose samples are measured in another unit, at readings of another clock. -/
def average (unit : Rat) (a : Average Rat) : Average Rat :=
  { a with
    mean := unit * a.mean
    variance := unit ^ 2 * a.variance
    lastUpdate := a.lastUpdate.map c.reading }

/-- An average whose samples are no spans of time, at readings of another clock. -/
def redated (a : Average Rat) : Average Rat :=
  { a with lastUpdate := a.lastUpdate.map c.reading }

variable {c}

theorem average_one : c.average 1 = c.redated := by
  funext a
  simp only [average, redated, one_mul, one_pow]

@[simp] theorem average_initial (unit : Rat) (window : Int) :
    c.average unit (Average.initial window) = Average.initial window := by
  simp [average, Average.initial, Average.empty]

theorem fold_average (unit weight value : Rat) (a : Average Rat) :
    (c.average unit a).fold weight (unit * value) = c.average unit (a.fold weight value) :=
  congrArg c.redated (Average.fold_scaled unit weight value a)

theorem blend_average (unit value : Rat) (a : Average Rat) (samples : Nat) :
    (c.average unit a).blend (unit * value) samples =
      (a.blend value samples).map (c.average unit) :=
  Average.blend_map (fun _ => rfl) (fun weight => fold_average unit weight value a) samples

theorem append_average (unit value now : Rat) (a : Average Rat) :
    (c.average unit a).append (unit * value) (c.reading now) =
      (a.append value now).map (c.average unit) := by
  have hcount : (c.average unit a).count = a.count := rfl
  unfold Average.append
  rw [hcount, blend_average]
  cases a.blend value (a.count + 1) with
  | error e => rfl
  | ok blended => rfl

private theorem blend_redated (value : Rat) (a : Average Rat) (samples : Nat) :
    (c.redated a).blend value samples = (a.blend value samples).map c.redated := by
  have hblend := blend_average (c := c) 1 value a samples
  rwa [one_mul, average_one] at hblend

theorem append_redated (value now : Rat) (a : Average Rat) :
    (c.redated a).append value (c.reading now) = (a.append value now).map c.redated := by
  have happend := append_average (c := c) 1 value now a
  rwa [one_mul, average_one] at happend

theorem sinceLast_redated (now : Rat) (a : Average Rat) :
    (c.redated a).sinceLast (c.reading now) = c.span (a.sinceLast now) := by
  unfold Average.sinceLast redated
  cases a.lastUpdate with
  | none => exact c.span_zero.symm
  | some last => exact c.reading_sub now last

variable (c) in
/-- Durations are spans of time, in all that is kept of them. -/
def durations (d : Durations Rat) : Durations Rat :=
  { average := c.average c.factor d.average
    shortest := d.shortest.map c.span
    longest := d.longest.map c.span }

private theorem lowered_span (bound : Option Rat) (value : Rat) :
    Durations.lowered (bound.map c.span) (c.span value) =
      c.span (Durations.lowered bound value) := by
  cases bound with
  | none => rfl
  | some low => simp only [Durations.lowered, Option.map_some, Option.elim_some,
      Scalar.minimum_rat, min_span]

private theorem raised_span (bound : Option Rat) (value : Rat) :
    Durations.raised (bound.map c.span) (c.span value) = c.span (Durations.raised bound value) := by
  cases bound with
  | none => rfl
  | some high => simp only [Durations.raised, Option.map_some, Option.elim_some,
      Scalar.maximum_rat, max_span]

private theorem clamp_span (low high mean : Rat) :
    Durations.clamp (c.span low) (c.span high) (c.span mean) =
      c.span (Durations.clamp low high mean) := by
  simp only [Durations.clamp, Scalar.minimum_rat, Scalar.maximum_rat, max_span, min_span]

theorem append_durations (value now : Rat) (d : Durations Rat) :
    (c.durations d).append (c.span value) (c.reading now) =
      (d.append value now).map c.durations := by
  have haverage := append_average (c := c) c.factor value now d.average
  unfold Durations.append
  simp only [durations, lowered_span, raised_span]
  rw [span, haverage]
  cases d.average.append value now with
  | error e => rfl
  | ok appended =>
    have hclamp := clamp_span (c := c) (Durations.lowered d.shortest value)
      (Durations.raised d.longest value) appended.mean
    exact congrArg (fun mean => (.ok {
      average := { c.average c.factor appended with mean }
      shortest := some (c.span (Durations.lowered d.shortest value))
      longest := some (c.span (Durations.raised d.longest value)) } :
        Except ArithmeticError (Durations Rat))) hclamp

/-- An extreme, which is zero before any duration. -/
theorem extreme_span (count : Nat) (bound : Option Rat) :
    (if count = 0 then 0 else (bound.map c.span).getD 0) =
      c.span (if count = 0 then 0 else bound.getD 0) := by
  split
  · exact c.span_zero.symm
  · cases bound with
    | none => exact c.span_zero.symm
    | some extreme => rfl

theorem minimum_durations (d : Durations Rat) : (c.durations d).minimum = c.span d.minimum :=
  extreme_span d.average.count d.shortest

theorem maximum_durations (d : Durations Rat) : (c.durations d).maximum = c.span d.maximum :=
  extreme_span d.average.count d.longest

variable (c) in
/-- Outcomes are no spans of time. -/
def outcomes (o : Outcomes Rat) : Outcomes Rat :=
  { average := c.redated o.average }

theorem record_outcomes (success : Bool) (now : Rat) (o : Outcomes Rat) :
    (c.outcomes o).record success (c.reading now) = (o.record success now).map c.outcomes := by
  unfold Outcomes.record
  simp only [outcomes, append_redated]
  cases o.average.append (Outcomes.valueOf success) now with
  | error e => rfl
  | ok appended => rfl

theorem errorRatio_outcomes (o : Outcomes Rat) : (c.outcomes o).errorRatio = o.errorRatio := rfl

variable (c) in
/-- A rate is measured in events per period, and its period is a span of time. -/
def rate (r : Rate Rat) : Rate Rat :=
  { average := c.redated r.average
    periodUnit := c.span r.periodUnit
    averagingPeriod := c.span r.averagingPeriod
    initialInterval := c.span r.initialInterval
    createdAt := c.reading r.createdAt
    firstUpdate := r.firstUpdate.map c.reading
    intervals := r.intervals }

theorem firstInterval_rate (r : Rate Rat) (now : Rat) :
    (c.rate r).firstInterval (c.reading now) = c.span (r.firstInterval now) := by
  simp only [Rate.firstInterval, rate, reading_sub, Scalar.zero_rat, span_le_zero_iff]
  split
  · rfl
  · rfl

theorem start_rate (r : Rate Rat) (now : Rat) :
    (c.rate r).start (c.reading now) = (r.start now).map c.rate := by
  unfold Rate.start
  rw [firstInterval_rate]
  simp only [rate, divide_span]
  cases Scalar.divide r.periodUnit (r.firstInterval now) with
  | error e => rfl
  | ok mean => rfl

theorem next_rate (r : Rate Rat) (last now : Rat) :
    (c.rate r).next (c.reading last) (c.reading now) = (r.next last now).map c.rate := by
  by_cases hgap : Scalar.zero < now - last
  · have hgap' : Scalar.zero < c.span (now - last) := (c.span_pos_iff _).mpr hgap
    have hblend (sample : Rat) := blend_redated (c := c) sample
      { r.average with count := r.average.count + 1, lastUpdate := some now } (r.intervals + 1)
    simp only [Rate.next, reading_sub, if_pos hgap, if_pos hgap', rate, divide_span]
    cases Scalar.divide r.periodUnit (now - last) with
    | error e => rfl
    | ok sample =>
      simp only [redated, Option.map_some] at hblend
      simp only [redated, bind, Except.bind, hblend]
      cases Average.blend { r.average with
          count := r.average.count + 1, lastUpdate := some now } sample (r.intervals + 1) with
      | error e => rfl
      | ok average => rfl
  · have hgap' : ¬ Scalar.zero < c.reading now - c.reading last := by
      rwa [reading_sub, Scalar.zero_rat, span_pos_iff]
    rw [Rate.next_of_not_lt _ hgap, Rate.next_of_not_lt _ hgap']
    rfl

theorem increment_rate (r : Rate Rat) (now : Rat) :
    (c.rate r).increment (c.reading now) = (r.increment now).map c.rate := by
  have hlast : (c.rate r).average.lastUpdate = r.average.lastUpdate.map c.reading := rfl
  unfold Rate.increment
  rw [hlast]
  cases r.average.lastUpdate with
  | none => exact start_rate r now
  | some last => exact next_rate r last now

theorem horizon_rate (r : Rate Rat) : (c.rate r).horizon = r.horizon.map c.span := by
  simp only [Rate.horizon, rate, redated, Scalar.ofCount_rat, Scalar.minimum_rat, mul_span, bind,
    Except.bind]
  by_cases hzero : r.average.mean = 0
  · rw [hzero]
    rfl
  · rw [Scalar.divide_rat hzero, Scalar.divide_rat hzero, span_div]
    exact congrArg Except.ok (c.min_span _ _)

theorem idle_reading (last now : Rat) :
    Rate.idle (c.reading last) (c.reading now) = c.span (Rate.idle last now) := by
  have hmax := c.max_span 0 (now - last)
  rw [span_zero] at hmax
  simp only [Rate.idle, Scalar.maximum_rat, Scalar.zero_rat, reading_sub, hmax]

theorem mean_rate (r : Rate Rat) (now : Rat) :
    (c.rate r).mean (c.reading now) = r.mean now := by
  have hmean : (c.rate r).average.mean = r.average.mean := rfl
  have hlast : (c.rate r).average.lastUpdate = r.average.lastUpdate.map c.reading := rfl
  unfold Rate.mean
  rw [hmean, hlast, horizon_rate]
  cases r.average.lastUpdate with
  | none => rfl
  | some last =>
    simp only [Option.map_some, idle_reading]
    cases r.horizon with
    | error e => rfl
    | ok horizon =>
      simp only [Except.map, bind, Except.bind, mul_span, span_add, divide_span]

end Rescaling

/-- The same refusal with its numbers in other units. -/
def HistoryError.map {α β : Type} (f : α → β) : HistoryError α → HistoryError β
  | .windowNotPositive window => .windowNotPositive window
  | .periodUnitNotPositive period => .periodUnitNotPositive (f period)
  | .averagingPeriodNotPositive period => .averagingPeriodNotPositive (f period)
  | .initialIntervalNotPositive interval => .initialIntervalNotPositive (f interval)
  | .arithmetic error => .arithmetic error
  | .takesNoValues => .takesNoValues

/-- Over the rationals an average is created unless its window is refused. -/
theorem Average.create_cases (window : Int) :
    (create window : Except (HistoryError Rat) (Average Rat)) = .ok (initial window) ∨
      (create window : Except (HistoryError Rat) (Average Rat)) =
        .error (.windowNotPositive window) := by
  by_cases hwindow : window < 1
  · exact .inr (if_pos hwindow)
  · exact .inl (create_rat (not_lt.mp hwindow))

namespace Rescaling

variable {c : Rescaling}

variable (c) in
/-- Without samples there is nothing that another clock would show differently. -/
theorem create_durations_cases (window : Int) :
    (∃ d, Durations.create window = .ok d ∧ c.durations d = d) ∨
      (Durations.create window : Except (HistoryError Rat) (Durations Rat)) =
        .error (.windowNotPositive window) := by
  unfold Durations.create
  obtain hcreate | hcreate := Average.create_cases window
  · rw [hcreate]
    refine .inl ⟨_, rfl, ?_⟩
    simp only [durations, average_initial]
    rfl
  · rw [hcreate]
    exact .inr rfl

variable (c) in
theorem create_outcomes_cases (window : Int) :
    (∃ o, Outcomes.create window = .ok o ∧ c.outcomes o = o) ∨
      (Outcomes.create window : Except (HistoryError Rat) (Outcomes Rat)) =
        .error (.windowNotPositive window) := by
  unfold Outcomes.create
  obtain hcreate | hcreate := Average.create_cases window
  · rw [hcreate]
    exact .inl ⟨_, rfl, rfl⟩
  · rw [hcreate]
    exact .inr rfl

theorem create_rate (window : Int) (periodUnit averagingPeriod now : Rat) :
    Rate.create window (c.span periodUnit) (c.span averagingPeriod) none (c.reading now) =
      ((Rate.create window periodUnit averagingPeriod none now).map c.rate).mapError
        (HistoryError.map c.span) := by
  unfold Rate.create
  simp only [Scalar.zero_rat, span_le_zero_iff]
  obtain hcreate | hcreate := Average.create_cases window
  · rw [hcreate]
    simp only
    split
    · rfl
    · split
      · rfl
      · rfl
  · rw [hcreate]
    rfl

end Rescaling

end SendMeter
