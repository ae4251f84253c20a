import SendMeter.Monitor
import SendMeter.Snapshot

namespace SendMeter

/-- Readings of one monitor, durations in seconds. -/
structure Readings where
  sendCount : Nat
  errorCount : Nat
  sinceLastSend : Float
  sendRate : Except ArithmeticError Float
  errorRate : Except ArithmeticError Float
  errorRatio : Float
  meanDuration : Float
  minDuration : Float
  maxDuration : Float
  durationDeviation : Float

namespace Monitor

/-- What is read from a monitor. The clock is assumed to stand still while it is read: the idle
times of both rates and the time since the last send end at the same reading of it. -/
def readings (m : Monitor Float) (now : Float) : Readings :=
  { sendCount := m.sendCount
    errorCount := m.errorCount
    sinceLastSend := m.sinceLastSend now
    sendRate := m.sendRate now
    errorRate := m.errorRate now
    errorRatio := m.errorRatio
    meanDuration := m.meanDuration
    minDuration := m.minDuration
    maxDuration := m.maxDuration
    durationDeviation := m.durations.average.deviation }

/-- The readings together, unless a rate cannot be read. -/
def snapshot (m : Monitor Float) (now : Float) : Except ArithmeticError Snapshot := do
  let r := m.readings now
  let sendRate ← r.sendRate
  let errorRate ← r.errorRate
  return {
    name := m.name
    sendCount := r.sendCount
    errorCount := r.errorCount
    sinceLastSend := r.sinceLastSend
    sendRate
    errorRate
    errorRatio := r.errorRatio
    meanDuration := r.meanDuration
    minDuration := r.minDuration
    maxDuration := r.maxDuration
    durationDeviation := r.durationDeviation }

/-- A monitor in one line. -/
def describe (m : Monitor Float) : String :=
  s!"MessageChannelMonitor: [name={m.name}, sends={m.sendCount}]"

end Monitor

end SendMeter
