import SendMeter.Decimal.Layout
import SendMeter.Scalar

namespace SendMeter

inductive HistoryError (α : Type) where
  | windowNotPositive (window : Int)
  | periodUnitNotPositive (period : α)
  | averagingPeriodNotPositive (period : α)
  | initialIntervalNotPositive (interval : α)
  | arithmetic (error : ArithmeticError)
  /-- A rate is driven by events and takes no values. -/
  | takesNoValues
deriving Repr

/-- A number as messages show it. -/
def shown (x : Float) : String :=
  Decimal.render Decimal.plain x

def HistoryError.message : HistoryError Float → String
  | .windowNotPositive window => s!"Window size must be positive, got {window}"
  | .periodUnitNotPositive period => "Period unit must be positive, got " ++ shown period
  | .averagingPeriodNotPositive period => "Averaging period must be positive, got " ++ shown period
  | .initialIntervalNotPositive interval =>
    "Initial interval must be positive, got " ++ shown interval
  | .arithmetic error => error.message
  | .takesNoValues => "RateHistory records events with increment(), not values"

end SendMeter
