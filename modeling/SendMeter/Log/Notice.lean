import SendMeter.Log.Record

namespace SendMeter.Log

/-- A message, the logger that took it, how severe it is, when it came, and from which line. -/
structure Notice where
  severity : Int
  logger : String
  message : String
  time : String
  line : String
deriving DecidableEq, Repr

/-- The name of the logger above all others, which may also be called by the empty name. -/
def rootLogger : String := "root"

def loggerOf (name : String) : String :=
  if name = "" then rootLogger else name

namespace Notice

def ofRecord (time line : String) (r : Record) : Notice :=
  { severity := r.level.severity, logger := r.logger, message := r.message, time, line }

/-- The level of the severity, or its number where there is none. -/
def title (n : Notice) : String :=
  match Level.all.find? fun level => (level.severity : Int) == n.severity with
  | some level => level.name
  | none => if n.severity = 0 then "NOTSET" else "Level " ++ toString n.severity

/-- The title in a column that is eight wide. -/
def titleColumn (n : Notice) : String :=
  n.title ++ String.ofList (List.replicate (8 - n.title.length) ' ')

/-- The message with all that is known about it. -/
def detailed (n : Notice) : String :=
  n.time ++ " | " ++ n.titleColumn ++ " | " ++ n.logger ++ ":" ++ n.line ++ " | " ++ n.message

end Notice

end SendMeter.Log
