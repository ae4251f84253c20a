import SendMeter.Configuration.Load
import SendMeter.Interception.Channel
import SendMeter.Interception.Task
import SendMeter.Log.Chronicle
import SendMeter.Registry
import SendMeter.Session.Step

namespace SendMeter

/-- A suspended or unstarted send with what it will do. -/
structure PendingCall where
  task : Task
  call : Session.Call Session.Step

/-- Monitors, tickets, blocks and tasks are known by the names that steps gave them. A name may be
given again. -/
structure Session where
  clock : Float
  registry : Registry Float
  source : SettingsSource Float
  /-- What stands for the time of day in reports. -/
  stamp : Json
  handles : List (String × Nat)
  tickets : List (String × Nat)
  blocks : List (String × Block)
  /-- All tasks, and the numbers of those that have a name. -/
  tasks : List PendingCall
  taskNames : List (String × Nat)

namespace Session

/-- How a send came out. -/
inductive Outcome where
  | returned (result : Json)
  | raised (error : Raised)
  /-- A task could not be run. -/
  | refused (error : TaskError Float)
  /-- There is no task with a name. -/
  | unknownTask (name : String)

/-- How a send came out that was run to its end. -/
def Ending.outcome : Ending → Outcome
  | .returns result => .returned result
  | .raises error => .raised error

/-- Why a step was not done. -/
inductive StepFault where
  | registry (error : RegistryError Float)
  | settings (error : SettingsError Float)
  | history (error : HistoryError Float)
  | reading (error : ArithmeticError)
  | hook (error : HookError Float)
  | block (error : BlockError Float)
  | task (error : TaskError Float)
  | unknownName (name : String)
  | noAttribute (typeName key : String)
  /-- A task ended where it should have been suspended. -/
  | ended (outcome : Outcome)

abbrev Fields := List (String × FieldValue)

/-- What a step answers. -/
inductive Reply where
  | nothing
  | clock (reading : Float)
  | monitor (name : String) (settings : Settings Float) (isNew : Bool)
  | ticket (t : Ticket Float)
  /-- Whether the ticket is completed, and why the completion was refused. -/
  | completion (fault : Option (HookError Float)) (completed : Bool)
  | startedAt (reading : Float)
  | flag (b : Bool)
  | outcome (o : Outcome)
  /-- The error that came out of a task, and whether it is the one that was thrown into it. -/
  | thrown (o : Outcome) (same : Bool)
  | proxy (description name : String) (purges : List Nat) (purged : Nat)
  | attributeValue (a : Attribute)
  | fields (fields : Fields)
  | table (rows : List (String × Fields))
  | text (s : String)
  | names (names : List String)
  | count (n : Nat)
  | failed (fault : StepFault)

/-- A session without monitors. -/
def start (clock : Float) (source : SettingsSource Float) (stamp : Json) : Session :=
  { clock, registry := .empty, source, stamp, handles := [], tickets := [], blocks := [],
    tasks := [], taskNames := [] }

/-- Names with one of them given to something, be it again. -/
def give {β : Type} (names : List (String × β)) (name : String) (thing : β) :
    List (String × β) :=
  (name, thing) :: names.filter (·.1 != name)

def fleet (s : Session) : Fleet Float := s.registry.fleet

def withFleet (s : Session) (f : Fleet Float) : Session :=
  { s with registry := { s.registry with fleet := f } }

def advanceBy (s : Session) (seconds : Float) : Session :=
  { s with clock := s.clock + seconds }

/-- The number of the monitor with a handle. -/
def monitorNumber? (s : Session) (handle : String) : Option Nat :=
  s.handles.lookup handle

def monitorAt? (s : Session) (number : Nat) : Option (Monitor Float) :=
  s.fleet.monitors[number]?

def monitor? (s : Session) (handle : String) : Option (Monitor Float) :=
  (s.monitorNumber? handle).bind s.monitorAt?

def ticketAt? (s : Session) (number : Nat) : Option (Ticket Float) :=
  s.fleet.tickets[number]?

/-- What can be read now from the monitor with a handle. -/
def readings? (s : Session) (handle : String) : Option Readings :=
  (s.monitor? handle).map (·.readings s.clock)

/-- The records of starting a send on a monitor. -/
def startRecords (s : Session) (monitor : Nat) : List Log.Record :=
  ((s.monitorAt? monitor).map (·.startRecords s.clock)).getD []

/-- The records of completing a ticket at a monitor. -/
def completeRecords (s : Session) (monitor ticket : Nat) (success : Bool) (given : Option Float) :
    List Log.Record :=
  match s.monitorAt? monitor, s.ticketAt? ticket with
  | some m, some t => m.completeRecords t success given s.clock
  | _, _ => []

/-- The records of leaving a block. -/
def leaveRecords (s : Session) (b : Block) (success : Bool) : List Log.Record :=
  (b.ticket.map fun ticket => s.completeRecords b.monitor ticket success none).getD []

end Session

end SendMeter
