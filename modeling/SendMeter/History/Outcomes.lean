import SendMeter.History.Average

namespace SendMeter

variable {α : Type} [Scalar α]

structure Outcomes (α : Type) where
  average : Average α

namespace Outcomes

def create (window : Int) : Except (HistoryError α) (Outcomes α) :=
  (Average.create window).map fun average => { average }

/-- The value that an outcome adds to the stream. -/
def valueOf (success : Bool) : α :=
  if success then Scalar.one else Scalar.zero

/-- Records one outcome. -/
def record (o : Outcomes α) (success : Bool) (now : α) : Except ArithmeticError (Outcomes α) := do
  let average ← o.average.append (valueOf success) now
  return { average }

/-- The decayed share of failures, zero before any outcome. -/
def errorRatio (o : Outcomes α) : α :=
  if o.average.count = 0 then Scalar.zero else Scalar.one - o.average.mean

end Outcomes

end SendMeter
