import SendMeter.Ini.Expansion
import SendMeter.Numeral.Real
import SendMeter.Settings

namespace SendMeter.Configuration

/-- The variables that settings are taken from, where they are set. -/
structure Environment where
  window : Option String
  periodUnit : Option String
  averagingPeriod : Option String
  logLevel : Option String
deriving DecidableEq, Repr

namespace Environment

def empty : Environment :=
  { window := none, periodUnit := none, averagingPeriod := none, logLevel := none }

def windowName : String := "CHANNEL_MONITOR_WINDOW_SIZE"

def periodUnitName : String := "CHANNEL_MONITOR_PERIOD_UNIT"

def averagingPeriodName : String := "CHANNEL_MONITOR_AVERAGING_PERIOD"

def logLevelName : String := "CHANNEL_MONITOR_LOG_LEVEL"

end Environment

/-- Why a text is no number. -/
inductive NumberFault where
  | integer (text : String) (fault : Numeral.IntegerFault)
  | real (text : String)
deriving DecidableEq, Repr

def NumberFault.message : NumberFault → String
  | .integer text fault => fault.message 10 (Text.quotedChars text.toList)
  | .real text => Numeral.realFaultMessage (Text.quotedChars text.toList)

def readWhole (text : String) : Except NumberFault Int :=
  (Numeral.readInteger 10 text.toList).mapError (.integer text)

def readPeriod (text : String) : Except NumberFault Float :=
  match Numeral.readReal? text.toList with
  | some x => .ok x
  | none => .error (.real text)

/-- Why the settings for every channel cannot be read. -/
inductive BaseFault where
  | expansion (fault : Ini.ExpansionFault)
  | option (fault : NumberFault)
  | variable (name text : String) (fault : NumberFault)
  | settings (error : SettingsError Float)
  | log (error : LogSettingsError)
deriving Repr

/-- The settings for every channel, and those of the log. -/
structure Base where
  settings : Settings Float
  log : LogSettings

/-- An option of a section, absent if there is no such section. -/
def option? (ini : Option Ini.Document) (header key : String) : Except BaseFault (Option String) :=
  match ini.filter (·.hasSection header) with
  | none => .ok none
  | some d => (d.expanded? header key).mapError .expansion

def monitorHeader : String := "monitor"

def logHeader : String := "logging"

/-- A number from the section of the monitor, or the number that stands in for it. -/
def optionOr {β : Type} (read : String → Except NumberFault β) (ini : Option Ini.Document)
    (key : String) (default : β) : Except BaseFault β :=
  (option? ini monitorHeader key).bind fun
    | none => .ok default
    | some text => (read text).mapError .option

/-- A number from a variable, or the number that stands in for it. -/
def variableOr {β : Type} (read : String → Except NumberFault β) (name : String)
    (text : Option String) (default : β) : Except BaseFault β :=
  match text with
  | none => .ok default
  | some text => (read text).mapError (.variable name text)

/-- Settings as the sectioned text gives them. -/
def iniSettings (ini : Option Ini.Document) : Except BaseFault (Settings Float) := do
  let standard := Settings.standard
  let window ← optionOr readWhole ini "window_size" standard.window
  let periodUnit ← optionOr readPeriod ini "period_unit" standard.periodUnit
  let averagingPeriod ← optionOr readPeriod ini "averaging_period" standard.averagingPeriod
  return { window, periodUnit, averagingPeriod }

/-- Settings with those that the environment gives put over them. -/
def Environment.override (e : Environment) (s : Settings Float) :
    Except BaseFault (Settings Float) := do
  let window ← variableOr readWhole windowName e.window s.window
  let periodUnit ← variableOr readPeriod periodUnitName e.periodUnit s.periodUnit
  let averagingPeriod ←
    variableOr readPeriod averagingPeriodName e.averagingPeriod s.averagingPeriod
  return { window, periodUnit, averagingPeriod }

def monitorSettings (ini : Option Ini.Document) (e : Environment) :
    Except BaseFault (Settings Float) := do
  let settings ← e.override (← iniSettings ini)
  settings.check.mapError .settings

def logSettings (ini : Option Ini.Document) (e : Environment) : Except BaseFault LogSettings := do
  let level ← option? ini logHeader "log_level"
  let directory ← option? ini logHeader "log_dir"
  let settings : LogSettings := {
    level := e.logLevel.getD (level.getD LogSettings.standard.level)
    directory := directory.getD LogSettings.standard.directory }
  settings.check.mapError .log

/-- What the sectioned text and the environment say together. -/
def Base.load (ini : Option Ini.Document) (e : Environment) : Except BaseFault Base := do
  let settings ← monitorSettings ini e
  let log ← logSettings ini e
  return { settings, log }

end SendMeter.Configuration
