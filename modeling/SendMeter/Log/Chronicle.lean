import SendMeter.Log.Record
import SendMeter.Log.Statistics
import SendMeter.Readings

namespace SendMeter.Monitor

def debugRecord (message : String) : Log.Record :=
  ⟨.debug, Log.monitorLogger, message⟩

/-- The record of an event that comes without a gap to the event before it. -/
def skipRecords (r : Rate Float) (now : Float) : List Log.Record :=
  ((r.skippedEvent? now).map fun number =>
    (⟨.debug, Log.rateLogger, s!"Zero interval at event {number}, rate update skipped"⟩ :
      Log.Record)).toList

def startRecords (m : Monitor Float) (now : Float) : List Log.Record :=
  skipRecords m.sends now ++ [debugRecord s!"Recording send on channel({m.name})"]

def milliseconds (seconds : Float) : String :=
  Decimal.fixed 3 (Snapshot.milliseconds seconds) ++ "ms"

def outcomeName (success : Bool) : String :=
  if success then "SUCCESS" else "FAILURE"

def completeRecords (m : Monitor Float) (t : Ticket Float) (success : Bool) (given : Option Float)
    (now : Float) : List Log.Record :=
  if given.any (· < 0) then []
  else if t.completed then
    [⟨.warning, Log.monitorLogger,
      s!"Send on channel({m.name}) already completed, ignoring duplicate outcome"⟩]
  else
    (if success then [] else skipRecords m.failures now) ++
      [debugRecord (s!"Send on channel({m.name}) {outcomeName success} in " ++
        milliseconds (t.duration given now))]

/-- The closing report of a channel, and why it could not be given in full. -/
def closingRecords (m : Monitor Float) (stamp : Json) (now : Float) :
    List Log.Record × Option ArithmeticError :=
  let summary := debugRecord (s!"Send duration for channel({m.name}): " ++ m.durations.summary)
  match m.snapshot now with
  | .error e => ([summary], some e)
  | .ok s =>
    let line := Log.statisticsLine stamp Log.closedAction (s.report stamp)
    ([summary, ⟨.info, Log.statisticsLogger, line⟩], none)

end SendMeter.Monitor
