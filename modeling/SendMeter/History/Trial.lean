import SendMeter.History.Durations
import SendMeter.History.Outcomes
import SendMeter.History.Rate
import SendMeter.Log.Record

namespace SendMeter.Trial

/-- A history of one of the four kinds. -/
inductive History where
  | average (a : Average Float)
  | durations (d : Durations Float)
  | rate (r : Rate Float)
  | outcomes (o : Outcomes Float)

/-- The kind of history to create. -/
inductive Kind where
  | average
  | durations
  | rate
  | outcomes
deriving DecidableEq, Repr

def Kind.name : Kind → String
  | .average => "ExponentialMovingAverage"
  | .durations => "DurationHistory"
  | .rate => "RateHistory"
  | .outcomes => "RatioHistory"

/-- What a history is created with. Only a rate uses the periods. -/
structure Parameters where
  window : Int := 10
  periodUnit : Float := 1
  averagingPeriod : Float := 60
  initialInterval : Option Float := none

def History.create (kind : Kind) (p : Parameters) (now : Float) :
    Except (HistoryError Float) History :=
  match kind with
  | .average => (Average.create p.window).map .average
  | .durations => (Durations.create p.window).map .durations
  | .rate => (Rate.create p.window p.periodUnit p.averagingPeriod p.initialInterval now).map .rate
  | .outcomes => (Outcomes.create p.window).map .outcomes

namespace History

def kind : History → Kind
  | .average _ => .average
  | .durations _ => .durations
  | .rate _ => .rate
  | .outcomes _ => .outcomes

/-- The moving average inside a history. -/
def base : History → Average Float
  | .average a => a
  | .durations d => d.average
  | .rate r => r.average
  | .outcomes o => o.average

end History

/-- Why a step had no effect. -/
inductive Fault where
  | refused (error : HistoryError Float)
  /-- Histories of this kind have no such operation. -/
  | noOperation (kind : Kind) (operation : String)

def Fault.message : Fault → String
  | .refused error => error.message
  | .noOperation kind operation => s!"'{kind.name}' object has no attribute '{operation}'"

/-- What a step does to the history. -/
inductive Action where
  | append (value : Float)
  | increment
  | outcome (success : Bool)

def Action.name : Action → String
  | .append _ => "append"
  | .increment => "increment"
  | .outcome true => "success"
  | .outcome false => "failure"

inductive Step where
  | advance (delta : Float)
  | set (time : Float)
  | act (action : Action)
  | read
  | again (times : Nat) (steps : List Step)

structure State where
  history : History
  clock : Float
  log : List Log.Record

def arithmetic {β : Type} (result : Except ArithmeticError β) : Except Fault β :=
  result.mapError fun error => .refused (.arithmetic error)

/-- The history after an action at a clock reading. -/
def History.act (h : History) (action : Action) (now : Float) : Except Fault History :=
  match h, action with
  | .average a, .append value => (arithmetic (a.append value now)).map .average
  | .durations d, .append value => (arithmetic (d.append value now)).map .durations
  | .outcomes o, .append value =>
    (arithmetic (o.average.append value now)).map fun average => .outcomes { average }
  | .outcomes o, .outcome success => (arithmetic (o.record success now)).map .outcomes
  | .rate r, .increment => (arithmetic (r.increment now)).map .rate
  | .rate _, .append _ => .error (.refused .takesNoValues)
  | h, action => .error (.noOperation h.kind action.name)

/-- The log record of an event whose gap is zero. -/
def skippedRecord (event : Nat) : Log.Record :=
  { level := .debug, logger := Log.rateLogger
    message := s!"Zero interval at event {event}, rate update skipped" }

/-- What an action writes to the log. -/
def History.records (h : History) (action : Action) (now : Float) : List Log.Record :=
  match h, action with
  | .rate r, .increment => (r.skippedEvent? now).toList.map skippedRecord
  | _, _ => []

/-- Runs a part of a trial a number of times, up to its first failure. -/
def iterate (part : State → State × Option Fault) : Nat → State → State × Option Fault
  | 0, state => (state, none)
  | times + 1, state =>
    match part state with
    | (after, none) => iterate part times after
    | (after, some fault) => (after, some fault)

mutual

/-- The state after a step. -/
def Step.run (state : State) : Step → State × Option Fault
  | .advance delta => ({ state with clock := state.clock + delta }, none)
  | .set time => ({ state with clock := time }, none)
  | .read => (state, none)
  | .act action =>
    match state.history.act action state.clock with
    | .error fault => (state, some fault)
    | .ok history =>
      ({ state with
          history
          log := state.log ++ state.history.records action state.clock }, none)
  | .again times steps => iterate (fun reached => runAll reached steps) times state

/-- The state after steps in turn, up to the first one that fails. -/
def runAll (state : State) : List Step → State × Option Fault
  | [] => (state, none)
  | step :: steps =>
    match step.run state with
    | (after, none) => runAll after steps
    | (after, some fault) => (after, some fault)

end

/-- What can be read from a history. -/
structure Reading where
  count : Nat
  mean : Except ArithmeticError Float
  deviation : Float
  sinceLast : Float
  description : String

def History.read (h : History) (now : Float) : Reading :=
  { count := h.base.count
    mean := match h with
      | .rate r => r.mean now
      | other => .ok other.base.mean
    deviation := h.base.deviation
    sinceLast := h.base.sinceLast now
    description := h.base.describe h.kind.name }

/-- What a trial shows after one step. A step that repeats others shows no log. -/
structure Row where
  fault : Option Fault
  history : History
  clock : Float
  log : List Log.Record

def Step.showsLog : Step → Bool
  | .again _ _ => false
  | _ => true

def rows (state : State) : List Step → List Row
  | [] => []
  | step :: steps =>
    let (after, fault) := step.run { state with log := [] }
    { fault, history := after.history, clock := after.clock
      log := if step.showsLog then after.log else [] } :: rows after steps

/-- The history as created, and a row for every step. -/
def run (kind : Kind) (p : Parameters) (clock : Float) (steps : List Step) :
    Except (HistoryError Float) (History × List Row) :=
  (History.create kind p clock).map fun history =>
    (history, rows { history, clock, log := [] } steps)

end SendMeter.Trial
