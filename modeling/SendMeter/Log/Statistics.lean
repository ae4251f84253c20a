import SendMeter.Json
import SendMeter.Snapshot

namespace SendMeter.Log

def statisticsLine (stamp : Json) (action : String) (data : List (String × Json)) : String :=
  (Json.object (Json.merge [("timestamp", stamp), ("action", .text action)] data)).render

/-- The action under which a channel reports for the last time. -/
def closedAction : String := "CHANNEL_CLOSED"

end SendMeter.Log

namespace SendMeter

def FieldValue.toJson : FieldValue → Json
  | .text s => .text s
  | .count n => .int n
  | .number x => .float x

/-- The data of a report, with the time at which it was taken. -/
def Snapshot.report (s : Snapshot) (takenAt : Json) : List (String × Json) :=
  s.fields.map (fun field => (field.1, field.2.toJson)) ++ [(Snapshot.takenAtField, takenAt)]

end SendMeter
