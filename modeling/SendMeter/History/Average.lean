import SendMeter.History.Error

namespace SendMeter

variable {α : Type} [Scalar α]

/-- Decayed mean and variance of the samples so far. -/
structure Average (α : Type) where
  /-- Number of recent samples that the decay stands for. -/
  window : Nat
  /-- Weight of a sample once the average is warm. -/
  alpha : α
  count : Nat
  mean : α
  variance : α
  /-- Clock reading of the last sample. -/
  lastUpdate : Option α

namespace Average

/-- The weight of a sample in the long run. -/
def steadyWeight (window : Int) : Except ArithmeticError α := do
  let terms ← Scalar.ofInt (window + 1)
  Scalar.divide Scalar.two terms

def empty (window : Nat) (alpha : α) : Average α :=
  { window, alpha, count := 0, mean := Scalar.zero, variance := Scalar.zero, lastUpdate := none }

def create (window : Int) : Except (HistoryError α) (Average α) :=
  if window < 1 then .error (.windowNotPositive window)
  else match steadyWeight window with
    | .error error => .error (.arithmetic error)
    | .ok alpha => .ok (empty window.toNat alpha)

/-- The weight of a sample that is the last of `samples`. -/
def weight (a : Average α) (samples : Nat) : Except ArithmeticError α := do
  let terms ← Scalar.ofCount samples
  let share ← Scalar.divide Scalar.one terms
  return Scalar.maximum a.alpha share

/-- The average with a value folded in. Rounding can push a variance near zero below it, hence the
maximum. -/
def fold (a : Average α) (weight value : α) : Average α :=
  let difference := value - a.mean
  let increment := weight * difference
  { a with
    mean := a.mean + increment
    variance := Scalar.maximum Scalar.zero
      ((Scalar.one - weight) * (a.variance + difference * increment)) }

def blend (a : Average α) (value : α) (samples : Nat) : Except ArithmeticError (Average α) := do
  let weight ← a.weight samples
  return a.fold weight value

/-- Records one sample at a clock reading. -/
def append (a : Average α) (value now : α) : Except ArithmeticError (Average α) := do
  let blended ← a.blend value (a.count + 1)
  return { blended with count := a.count + 1, lastUpdate := some now }

/-- Time since the last sample, zero before any. -/
def sinceLast (a : Average α) (now : α) : α :=
  match a.lastUpdate with
  | none => Scalar.zero
  | some last => now - last

/-- Standard deviation of the samples; the variance is never negative. -/
def deviation (a : Average Float) : Float :=
  a.variance.sqrt

@[simp] theorem fold_window (a : Average α) (weight value : α) :
    (a.fold weight value).window = a.window := rfl

@[simp] theorem fold_alpha (a : Average α) (weight value : α) :
    (a.fold weight value).alpha = a.alpha := rfl

@[simp] theorem fold_count (a : Average α) (weight value : α) :
    (a.fold weight value).count = a.count := rfl

@[simp] theorem fold_mean (a : Average α) (weight value : α) :
    (a.fold weight value).mean = a.mean + weight * (value - a.mean) := rfl

/-- One line that names the kind of history and shows its state. -/
def describe (kind : String) (a : Average Float) : String :=
  s!"{kind}(window_size={a.window}, count={a.count}, mean=" ++ Decimal.fixed 6 a.mean ++
    ", sigma=" ++ Decimal.fixed 6 a.deviation ++ ")"

end Average

end SendMeter
