import SendMeter.History.Error
import SendMeter.Log.Level
import SendMeter.Text.LetterCase

namespace SendMeter

/-- Decay settings of one channel. -/
structure Settings (α : Type) where
  window : Int
  periodUnit : α
  averagingPeriod : α
deriving DecidableEq, Repr

/-- The first setting that is out of range. -/
inductive SettingsError (α : Type) where
  | window (size : Int)
  | periodUnit (period : α)
  | averagingPeriod (period : α)
deriving Repr

def SettingsError.message : SettingsError Float → String
  | .window size => s!"Window size must be >= 1, got {size}"
  | .periodUnit period => "Period unit must be positive, got " ++ shown period
  | .averagingPeriod period => "Averaging period must be positive, got " ++ shown period

namespace Settings

/-- Rates per second, smoothed over ten events, half as high after a minute of silence. -/
def standard : Settings Float :=
  { window := 10, periodUnit := 1, averagingPeriod := 60 }

/-- The settings themselves, unless one of them is out of range. A period that is not a number is
not out of range. -/
def check {α : Type} [Scalar α] (s : Settings α) : Except (SettingsError α) (Settings α) :=
  if s.window < 1 then .error (.window s.window)
  else if s.periodUnit ≤ Scalar.zero then .error (.periodUnit s.periodUnit)
  else if s.averagingPeriod ≤ Scalar.zero then .error (.averagingPeriod s.averagingPeriod)
  else .ok s

end Settings

/-- Where the log goes, and from which level on. -/
structure LogSettings where
  level : String
  directory : String
deriving DecidableEq, Repr

/-- The level is none of the known ones. -/
structure LogSettingsError where
  level : String
deriving DecidableEq, Repr

def LogSettingsError.message (e : LogSettingsError) : String :=
  "Invalid log level: " ++ e.level ++ ". Must be one of [" ++
    ", ".intercalate (Log.Level.all.map fun level => "'" ++ level.name ++ "'") ++ "]"

namespace LogSettings

def standard : LogSettings :=
  { level := "INFO", directory := "logs" }

/-- The upper-case name of the level. -/
def levelName (s : LogSettings) : String :=
  String.ofList (Text.upper s.level.toList)

/-- The settings themselves, if their level is the name of a level in any case. -/
def check (s : LogSettings) : Except LogSettingsError LogSettings :=
  if (Log.Level.ofName? s.levelName).isSome then .ok s else .error ⟨s.level⟩

end LogSettings

end SendMeter
