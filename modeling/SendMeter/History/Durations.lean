import SendMeter.History.Average

namespace SendMeter

variable {α : Type} [Scalar α]

/-- The extremes start at the ends of the number line, where it has ends. -/
structure Durations (α : Type) where
  average : Average α
  shortest : Option α
  longest : Option α

namespace Durations

def create (window : Int) : Except (HistoryError α) (Durations α) :=
  (Average.create window).map fun average =>
    { average, shortest := Scalar.top?, longest := Scalar.bottom? }

def lowered (bound : Option α) (value : α) : α :=
  bound.elim value (Scalar.minimum · value)

def raised (bound : Option α) (value : α) : α :=
  bound.elim value (Scalar.maximum · value)

/-- A mean is moved into the range of the samples. -/
def clamp (low high mean : α) : α :=
  Scalar.minimum (Scalar.maximum mean low) high

/-- Records one duration. -/
def append (d : Durations α) (value now : α) : Except ArithmeticError (Durations α) := do
  let average ← d.average.append value now
  let low := lowered d.shortest value
  let high := raised d.longest value
  return {
    average := { average with mean := clamp low high average.mean }
    shortest := some low
    longest := some high }

/-- The shortest duration, zero before any. -/
def minimum (d : Durations α) : α :=
  if d.average.count = 0 then Scalar.zero else d.shortest.getD Scalar.zero

/-- The longest duration, zero before any. -/
def maximum (d : Durations α) : α :=
  if d.average.count = 0 then Scalar.zero else d.longest.getD Scalar.zero

/-- One line for the log. -/
def summary (d : Durations Float) : String :=
  if d.average.count = 0 then "[N=0]"
  else
    s!"[N={d.average.count}, min=" ++ Decimal.fixed 6 d.minimum ++ ", max=" ++
      Decimal.fixed 6 d.maximum ++ ", mean=" ++ Decimal.fixed 6 d.average.mean ++ ", sigma=" ++
      Decimal.fixed 6 d.average.deviation ++ "]"

end Durations

end SendMeter
