import SendMeter.Log.Level

namespace SendMeter.Log

structure Record where
  level : Level
  logger : String
  message : String
deriving DecidableEq, Repr

/-- The logger of each part of the library, and the one that takes closing statistics. -/
def rateLogger : String := "channel_monitor.monitoring.rate_history"

def monitorLogger : String := "channel_monitor.monitoring.channel_monitor"

def interceptorLogger : String := "channel_monitor.monitoring.interceptor"

def registryLogger : String := "channel_monitor.monitoring.registry"

def configLogger : String := "channel_monitor.utils.config"

def statisticsLogger : String := "channel_stats"

/-- What a capture from a level on keeps. -/
def Record.atLeast (threshold : Level) (r : Record) : Bool :=
  threshold.severity ≤ r.level.severity

end SendMeter.Log
