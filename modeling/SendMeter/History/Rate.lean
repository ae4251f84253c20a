import SendMeter.History.Average

namespace SendMeter

variable {α : Type} [Scalar α]

structure Rate (α : Type) where
  /-- Count, mean and variance of the smoothed rate, and the time of the last event. -/
  average : Average α
  periodUnit : α
  averagingPeriod : α
  /-- The gap that a first event is given if it comes with the creation. -/
  initialInterval : α
  createdAt : α
  firstUpdate : Option α
  /-- Number of gaps that were folded in. -/
  intervals : Nat

namespace Rate

/-- A rate history; the interval of a first event is the period unless another one is given. -/
def create (window : Int) (periodUnit averagingPeriod : α) (initialInterval : Option α) (now : α) :
    Except (HistoryError α) (Rate α) :=
  match Average.create window with
  | .error error => .error error
  | .ok average =>
    if periodUnit ≤ Scalar.zero then .error (.periodUnitNotPositive periodUnit)
    else if averagingPeriod ≤ Scalar.zero then
      .error (.averagingPeriodNotPositive averagingPeriod)
    else match initialInterval.filter (· ≤ Scalar.zero) with
      | some interval => .error (.initialIntervalNotPositive interval)
      | none => .ok {
          average, periodUnit, averagingPeriod
          initialInterval := initialInterval.getD periodUnit
          createdAt := now
          firstUpdate := none
          intervals := 0 }

/-- The time that the first event took to arrive; never zero and never negative. -/
def firstInterval (r : Rate α) (now : α) : α :=
  let elapsed := now - r.createdAt
  if elapsed ≤ Scalar.zero then r.initialInterval else elapsed

/-- The first event is rated by the time it took to arrive. -/
def start (r : Rate α) (now : α) : Except ArithmeticError (Rate α) := do
  let mean ← Scalar.divide r.periodUnit (r.firstInterval now)
  return { r with
    average :=
      { r.average with count := 1, mean, variance := Scalar.zero, lastUpdate := some now }
    firstUpdate := some now }

/-- A later event is rated by its gap to the last one; an event without a gap only counts. -/
def next (r : Rate α) (last now : α) : Except ArithmeticError (Rate α) :=
  let gap := now - last
  let counted := { r.average with count := r.average.count + 1, lastUpdate := some now }
  if Scalar.zero < gap then do
    let sample ← Scalar.divide r.periodUnit gap
    let average ← counted.blend sample (r.intervals + 1)
    return { r with average, intervals := r.intervals + 1 }
  else .ok { r with average := counted }

theorem next_of_not_lt (r : Rate α) {last now : α} (h : ¬ Scalar.zero < now - last) :
    r.next last now =
      .ok { r with
        average := { r.average with count := r.average.count + 1, lastUpdate := some now } } := by
  simp [next, h]

/-- Records one event at a clock reading. -/
def increment (r : Rate α) (now : α) : Except ArithmeticError (Rate α) :=
  match r.average.lastUpdate with
  | none => r.start now
  | some last => r.next last now

/-- The number of an event that has no gap to the event before it. -/
def skippedEvent? (r : Rate α) (now : α) : Option Nat :=
  match r.average.lastUpdate with
  | none => none
  | some last => if Scalar.zero < now - last then none else some (r.average.count + 1)

/-- The time that the recorded events cover, as far as the averaging period. -/
def horizon (r : Rate α) : Except ArithmeticError α := do
  let count ← Scalar.ofCount r.average.count
  let span ← Scalar.divide (count * r.periodUnit) r.average.mean
  return Scalar.minimum r.averagingPeriod span

/-- The time without events, zero if the clock went backwards. -/
def idle (last now : α) : α :=
  Scalar.maximum Scalar.zero (now - last)

/-- The current rate: the smoothed one, scaled down by the time without events. -/
def mean (r : Rate α) (now : α) : Except ArithmeticError α :=
  match r.average.lastUpdate with
  | none => .ok Scalar.zero
  | some last =>
    if r.average.mean ≤ Scalar.zero then .ok Scalar.zero
    else do
      let horizon ← r.horizon
      Scalar.divide (r.average.mean * horizon) (horizon + idle last now)

end Rate

end SendMeter
