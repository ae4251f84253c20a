namespace SendMeter

/-- A field of a report: a text, a count, or a measured number. -/
inductive FieldValue where
  | text (s : String)
  | count (n : Int)
  | number (x : Float)

/-- Statistics of one channel at one time, durations in seconds. -/
structure Snapshot where
  name : String
  sendCount : Int := 0
  errorCount : Int := 0
  sinceLastSend : Float := 0
  sendRate : Float := 0
  errorRate : Float := 0
  errorRatio : Float := 0
  meanDuration : Float := 0
  minDuration : Float := 0
  maxDuration : Float := 0
  durationDeviation : Float := 0

namespace Snapshot

/-- Reports give durations in milliseconds. -/
def milliseconds (seconds : Float) : Float :=
  seconds * 1000

/-- The fields of a report in order. -/
def fields (s : Snapshot) : List (String × FieldValue) :=
  [("name", .text s.name),
   ("send_count", .count s.sendCount),
   ("send_error_count", .count s.errorCount),
   ("time_since_last_send", .number s.sinceLastSend),
   ("send_rate", .number s.sendRate),
   ("error_rate", .number s.errorRate),
   ("error_ratio", .number s.errorRatio),
   ("mean_send_duration_ms", .number (milliseconds s.meanDuration)),
   ("min_send_duration_ms", .number (milliseconds s.minDuration)),
   ("max_send_duration_ms", .number (milliseconds s.maxDuration)),
   ("standard_deviation_send_duration_ms", .number (milliseconds s.durationDeviation))]

/-- The field that tells when the statistics were taken. -/
def takenAtField : String := "last_updated"

end Snapshot

end SendMeter
