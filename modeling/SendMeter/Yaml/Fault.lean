import SendMeter.Numeral.Real
import SendMeter.Scalar
import SendMeter.Text.Point

namespace SendMeter.Yaml

/-- A date, a time or an offset that does not exist. -/
inductive CalendarFault where
  | year (n : Nat)
  | month
  | day
  | hour
  | minute
  | second
  /-- An offset of a day or more, in minutes. -/
  | offset (minutes : Int)
deriving DecidableEq, Repr

/-- A span of minutes as whole days and the seconds of the rest, which are not negative. -/
def spanText (minutes : Int) : String :=
  let days := minutes.fdiv 1440
  let seconds := minutes.fmod 1440 * 60
  "datetime.timedelta(days=" ++ toString days ++
    (if seconds = 0 then "" else ", seconds=" ++ toString seconds) ++ ")"

def CalendarFault.message : CalendarFault → String
  | .year n => s!"year {n} is out of range"
  | .month => "month must be in 1..12"
  | .day => "day is out of range for month"
  | .hour => "hour must be in 0..23"
  | .minute => "minute must be in 0..59"
  | .second => "second must be in 0..59"
  | .offset minutes =>
    "offset must be a timedelta strictly between " ++
      "-timedelta(hours=24) and timedelta(hours=24), not " ++ spanText minutes ++ "."

inductive Fault where
  | unreadable
  /-- Collections are nested without end, or too deep. -/
  | tooDeep
  /-- An escape names no character. -/
  | codePoint
  /-- A number without digits. -/
  | emptyNumber
  | integer (base : Nat) (text : List Text.Point) (fault : Numeral.IntegerFault)
  | real (text : List Text.Point)
  | arithmetic (error : ArithmeticError)
  | truth (text : List Text.Point)
  | notMoment
  /-- A mapping stands where the text of a date is asked for. -/
  | momentOfMapping
  | calendar (fault : CalendarFault)
deriving DecidableEq, Repr

/-- The message for a fault in the document at a path. -/
def Fault.message (path : String) : Fault → String
  | .unreadable => s!"Failed to parse {path}"
  | .tooDeep => "maximum recursion depth exceeded"
  | .codePoint => "chr() arg not in range(0x110000)"
  | .emptyNumber => "string index out of range"
  | .integer base text fault => fault.message base (Text.quotedPoints text)
  | .real text => Numeral.realFaultMessage (Text.quotedPoints text)
  | .arithmetic error => error.message
  | .truth text => String.ofList (Text.quotedPoints text)
  | .notMoment => "'NoneType' object has no attribute 'groupdict'"
  | .momentOfMapping => "expected string or bytes-like object, got 'list'"
  | .calendar fault => fault.message

end SendMeter.Yaml
