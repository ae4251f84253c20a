namespace SendMeter.Log

/-- The levels at which this library writes records. -/
inductive Level where
  | debug
  | info
  | warning
  | error
  | critical
deriving DecidableEq, Repr

namespace Level

def severity : Level → Nat
  | .debug => 10
  | .info => 20
  | .warning => 30
  | .error => 40
  | .critical => 50

def name : Level → String
  | .debug => "DEBUG"
  | .info => "INFO"
  | .warning => "WARNING"
  | .error => "ERROR"
  | .critical => "CRITICAL"

def all : List Level := [.debug, .info, .warning, .error, .critical]

/-- The level of an upper-case name. -/
def ofName? (name : String) : Option Level :=
  all.find? (·.name == name)

/-- Severities by the names under which a setup may ask for them: the levels, other words for two of
them, and the word for none. -/
def namedSeverities : List (String × Nat) :=
  all.map (fun level => (level.name, level.severity)) ++
    [("WARN", severity .warning), ("FATAL", severity .critical), ("NOTSET", 0)]

def severityOfName? (name : String) : Option Nat :=
  (namedSeverities.find? (·.1 == name)).map (·.2)

end Level

end SendMeter.Log
