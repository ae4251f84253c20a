import SendMeter.Session.Call

namespace SendMeter.Session

/-- What a step left: the records before its body, the traces of the body, the records after it,
its answer, and what can be read from its monitor afterwards. The body may be that of a task. -/
inductive Trace where
  | step (before : List Log.Record) (body : List Trace) (after : List Log.Record) (reply : Reply)
      (readings : Option Readings)
  | task (number : Nat) (before : List Log.Record) (body : List Trace) (after : List Log.Record)
      (reply : Reply)
  /-- A task that cannot be run. -/
  | stuck (task : Nat) (reply : Reply)
  /-- Steps that were done again and again. -/
  | again (fault : Option StepFault) (steps : List Trace)

/-- A session with the answer of a step and the records that were written. -/
structure Done where
  session : Session
  reply : Reply
  records : List Log.Record := []

def Done.trace (d : Done) (subject : Option String) : Trace :=
  .step [] [] d.records d.reply (subject.bind d.session.readings?)

/-- A session in which a step has failed. -/
def refuse (s : Session) (fault : StepFault) : Done := ⟨s, .failed fault, []⟩

/-- What a step answers, and the records that were written. -/
structure Answered where
  reply : Reply
  records : List Log.Record := []

/-- Does the work of a step. The session is what the work leaves of it, also if it fails. -/
def perform (s : Session) (w : Work Session StepFault Answered) : Done :=
  match w s with
  | .ok answered s => ⟨s, answered.reply, answered.records⟩
  | .error fault s => s.refuse fault

/-- Work on the registry of a session. -/
def onRegistry {β : Type} (w : Work (Registry Float) StepFault β) : Work Session StepFault β :=
  fun s => Work.within s.registry (fun s registry => { s with registry }) w s

/-- The monitor with a handle, by its number. -/
def resolve (s : Session) (handle : String) : Except StepFault Nat :=
  match s.monitorNumber? handle with
  | some number => .ok number
  | none => .error (.unknownName handle)

def resolveMonitor (s : Session) (handle : String) : Except StepFault (Monitor Float) :=
  match s.monitor? handle with
  | some m => .ok m
  | none => .error (.unknownName handle)

def lookupName {β : Type} (names : List (String × β)) (name : String) : Except StepFault β :=
  match names.lookup name with
  | some thing => .ok thing
  | none => .error (.unknownName name)

/-- Gives a handle to a monitor, and shows the monitor. -/
def present (monitor : Nat) (handle : String) (records : List Log.Record) :
    Work Session StepFault Answered := do
  let s ← get
  let isNew := !s.handles.any (·.2 == monitor)
  modify fun s => { s with handles := give s.handles handle monitor }
  match s.monitorAt? monitor with
  | some m => return ⟨.monitor m.name m.settings isNew, records⟩
  | none => return ⟨.nothing, records⟩

def registryRecord (message : String) : Log.Record :=
  ⟨.info, Log.registryLogger, message⟩

/-- How a registry is asked for the monitor of a channel. -/
def Request.work (how : Request) (source : SettingsSource Float) (name : String) (now : Float) :
    Work (Registry Float) (RegistryError Float) Nat :=
  match how with
  | .register => Registry.registerM source name now
  | .get => Registry.getM name
  | .getOrRegister => Registry.getOrRegisterM source name now

/-- Asks the registry for the monitor of a channel. -/
def request (how : Request) (name : String) (handle : Option String) :
    Work Session StepFault Answered := do
  let s ← get
  let monitor ← onRegistry ((how.work s.source name s.clock).mapError .registry)
  let records :=
    if s.registry.size < (← get).registry.size then
      [registryRecord s!"Registered channel monitor: {name}"]
    else []
  present monitor (handle.getD name) records

/-- Given settings, with the standard ones for those that are not given. -/
def GivenSettings.fill (g : GivenSettings) : Settings Float :=
  { window := g.window.getD Settings.standard.window
    periodUnit := g.periodUnit.getD Settings.standard.periodUnit
    averagingPeriod := g.averagingPeriod.getD Settings.standard.averagingPeriod }

/-- Makes a monitor outside of the registry. -/
def newMonitor (name : String) (given : Option GivenSettings) (handle : Option String) :
    Work Session StepFault Answered := do
  let s ← get
  let settings := (given.map fun g => g.fill.check).getD (.ok Settings.standard)
  let settings ← ofExcept (settings.mapError .settings)
  let monitor ← onRegistry ((Registry.makeM name settings s.clock).mapError .history)
  present monitor (handle.getD name) []

def startSend (handle ticket : String) : Work Session StepFault Answered := do
  let s ← get
  let monitor ← ofExcept (s.resolve handle)
  let number := s.fleet.nextTicket
  onFleet ((Fleet.callM (.start monitor s.clock)).mapError .hook)
  modify fun s => { s with tickets := give s.tickets ticket number }
  match (← get).ticketAt? number with
  | some t => return ⟨.ticket t, s.startRecords monitor⟩
  | none => return ⟨.nothing, s.startRecords monitor⟩

def completeSend (handle ticket : String) (success : Bool) (given : Option Float) :
    Work Session StepFault Answered := do
  let s ← get
  let number ← ofExcept (lookupName s.tickets ticket)
  let monitor ← ofExcept (s.resolve handle)
  let called ← onFleet (Fleet.callM (.complete monitor number success given s.clock)).attempt
  let isCompleted := ((← get).ticketAt? number).any (·.completed)
  match called with
  | .error e => return ⟨.completion (some e) isCompleted, []⟩
  | .ok _ => return ⟨.completion none isCompleted, s.completeRecords monitor number success given⟩

/-- A new block under a name. -/
def newBlock (name handle : String) : Work Session StepFault Answered := do
  let number ← ofExcept ((← get).resolve handle)
  modify fun s => { s with blocks := give s.blocks name (.around number) }
  return ⟨.nothing, []⟩

def enterNamed (name : String) : Work Session StepFault Answered := do
  let b ← ofExcept (lookupName (← get).blocks name)
  let (b, records) ← enterBlock b
  modify fun s => { s with blocks := give s.blocks name b }
  match b.ticket.bind (← get).ticketAt? with
  | some t => return ⟨.startedAt t.startedAt, records⟩
  | none => return ⟨.nothing, records⟩

/-- Leaving a block tells whether an error is held back. -/
def leaveNamed (name : String) (success : Bool) : Work Session StepFault Answered := do
  let b ← ofExcept (lookupName (← get).blocks name)
  let (held, records) ← leaveBlock b success
  return ⟨.flag held, records⟩

def pendingCall (s : Session) (name : String) : Except StepFault (Nat × PendingCall) := do
  let number ← lookupName s.taskNames name
  match s.tasks[number]? with
  | some p => return (number, p)
  | none => .error (.unknownName name)

def setTask (s : Session) (number : Nat) (t : Task) : Session :=
  { s with tasks := s.tasks.modify number fun p => { p with task := t } }

/-- Ends a task that cannot be reached any more, if it can be ended. -/
def dropTask (number : Nat) : Work Session StepFault (List Log.Record) := do
  match (← get).tasks[number]? with
  | none => return []
  | some p =>
    match ← (cancelTask p.task).attempt with
    | .error _ => return []
    | .ok (t, _, records) =>
      modify (·.setTask number t)
      return records

/-- A new task under a name. The task that had the name before is dropped. -/
def newTask (name : String) (c : Call Step) : Work Session StepFault Answered := do
  let s ← get
  let monitor ← ofExcept (s.resolve c.monitor)
  modify fun s => { s with
    tasks := s.tasks ++ [⟨.around monitor, c⟩], taskNames := give s.taskNames name s.tasks.length }
  match s.taskNames.lookup name with
  | some old => return ⟨.nothing, ← dropTask old⟩
  | none => return ⟨.nothing, []⟩

/-- The error that was thrown comes out again, or the one by which the task cannot take it. -/
def throwInto (name : String) (error : Raised) : Work Session StepFault Answered := do
  match (← get).pendingCall name with
  | .error _ => return ⟨.thrown (.unknownTask name) false, []⟩
  | .ok (number, p) =>
    match ← (cancelTask p.task).attempt with
    | .error (.task e) => return ⟨.thrown (.refused e) false, []⟩
    | .error fault => throw fault
    | .ok (t, held, records) =>
      modify (·.setTask number t)
      let ending := (Ending.raises error).through held
      return ⟨.thrown ending.outcome (ending.raised? == some error), records⟩

/-- A task that has ended can be closed again. -/
def closeTask (name : String) : Work Session StepFault Answered := do
  let (number, p) ← ofExcept ((← get).pendingCall name)
  match ← (cancelTask p.task).attempt with
  | .error (.task .alreadyEnded) => return ⟨.nothing, []⟩
  | .error fault => throw fault
  | .ok (t, _, records) =>
    modify (·.setTask number t)
    return ⟨.nothing, records⟩

def proxyInfo (handle channel : String) (isAsync : Bool) : Work Session StepFault Answered := do
  let m ← ofExcept ((← get).resolveMonitor handle)
  let c := Channel.named channel isAsync
  let purges := [c.purge.purged, c.purge.purge.purged]
  return ⟨.proxy (c.describeProxy m.name) c.name purges c.purge.purge.purged, []⟩

def proxyAttribute (handle channel key : String) : Work Session StepFault Answered := do
  let _ ← ofExcept ((← get).resolveMonitor handle)
  let c := Channel.named channel false
  match c.proxyAttribute? key with
  | some a => return ⟨.attributeValue a, []⟩
  | none => throw (.noAttribute c.typeName key)

def fieldsOf (s : Session) (m : Monitor Float) : Except StepFault Fields :=
  match m.snapshot s.clock with
  | .error e => .error (.reading e)
  | .ok snapshot => .ok snapshot.fields

def snapshotOf (handle : String) : Work Session StepFault Answered := do
  let s ← get
  let m ← ofExcept (s.resolveMonitor handle)
  return ⟨.fields (← ofExcept (s.fieldsOf m)), []⟩

def statsOf (name : String) : Work Session StepFault Answered := do
  let s ← get
  let number ← ofExcept ((s.registry.get name).mapError .registry)
  match s.monitorAt? number with
  | some m => return ⟨.fields (← ofExcept (s.fieldsOf m)), []⟩
  | none => throw (.registry (.unknown name))

def allStats : Work Session StepFault Answered := do
  let s ← get
  let rows ← ofExcept (s.registry.registered.mapM fun m => do return (m.name, ← s.fieldsOf m))
  return ⟨.table rows, []⟩

def describe (handle : String) : Work Session StepFault Answered := do
  let m ← ofExcept ((← get).resolveMonitor handle)
  return ⟨.text m.describe, []⟩

def destroy (handle : String) : Work Session StepFault Answered := do
  let s ← get
  let m ← ofExcept (s.resolveMonitor handle)
  match m.closingRecords s.stamp s.clock with
  | (records, none) => return ⟨.nothing, records⟩
  | (records, some e) => return ⟨.failed (.reading e), records⟩

/-- The closing reports of monitors, up to the first that cannot be given in full. -/
def closingRecords (stamp : Json) (now : Float) :
    List (Monitor Float) → List Log.Record × Option ArithmeticError
  | [] => ([], none)
  | m :: ms =>
    match m.closingRecords stamp now with
    | (records, some e) => (records, some e)
    | (records, none) =>
      let (more, fault) := closingRecords stamp now ms
      (records ++ more, fault)

/-- Closes the registry with a report on every channel. -/
def shutdown (s : Session) : Done :=
  let closed := { s with registry := s.registry.close }
  match closingRecords s.stamp s.clock s.registry.registered with
  | (records, some e) => ⟨closed, .failed (.reading e), records⟩
  | (records, none) =>
    let summary := registryRecord s!"Channel monitors shut down ({s.registry.size} channels)"
    ⟨closed, .nothing, records ++ [summary]⟩

/-- A step that has no body. -/
def simpleStep (s : Session) : Step → Done
  | .advance seconds =>
    let s := s.advanceBy seconds
    ⟨s, .clock s.clock, []⟩
  | .setClock reading => ⟨{ s with clock := reading }, .clock reading, []⟩
  | .request how name handle => s.perform (request how name handle)
  | .newMonitor name given handle => s.perform (newMonitor name given handle)
  | .start monitor ticket => s.perform (startSend monitor ticket)
  | .complete monitor ticket success given => s.perform (completeSend monitor ticket success given)
  | .newBlock block monitor => s.perform (newBlock block monitor)
  | .enter block => s.perform (enterNamed block)
  | .leave block success => s.perform (leaveNamed block success)
  | .newTask task c => s.perform (newTask task c)
  | .throwInto task error => s.perform (throwInto task error)
  | .closeTask task => s.perform (closeTask task)
  | .proxyInfo monitor channel isAsync => s.perform (proxyInfo monitor channel isAsync)
  | .proxyAttribute monitor channel key => s.perform (proxyAttribute monitor channel key)
  | .snapshot monitor => s.perform (snapshotOf monitor)
  | .stats name => s.perform (statsOf name)
  | .allStats => s.perform allStats
  | .describe monitor => s.perform (describe monitor)
  | .destroy monitor => s.perform (destroy monitor)
  | .names => ⟨s, .names s.registry.names, []⟩
  | .contains name => ⟨s, .flag (s.registry.contains name), []⟩
  | .size => ⟨s, .count s.registry.size, []⟩
  | .shutdown => s.shutdown
  | _ => ⟨s, .nothing, []⟩

def Reply.fault? : Reply → Option StepFault
  | .failed fault => some fault
  | _ => none

def Trace.fault? : Trace → Option StepFault
  | .step _ _ _ reply _ => reply.fault?
  | .task _ _ _ _ reply => reply.fault?
  | .stuck _ reply => reply.fault?
  | .again fault _ => fault

mutual

/-- Does one step; at most `fuel` steps deep. -/
def runStep : Nat → Session → Step → Session × Trace
  | 0, s, _ => (s, .again none [])
  | fuel + 1, s, step =>
    match step with
    | .call c => runCall fuel s c
    | .stepTask task => runTask fuel s task false
    | .finishTask task => runTask fuel s task true
    | .again times steps =>
      let (s, fault, traces) := runAgain fuel s times steps
      (s, .again fault traces)
    | step =>
      let d := s.simpleStep step
      (d.session, d.trace step.subject?)

/-- Does steps in turn. -/
def runSteps : Nat → Session → List Step → Session × List Trace
  | 0, s, _ => (s, [])
  | _ + 1, s, [] => (s, [])
  | fuel + 1, s, step :: steps =>
    let (s, trace) := runStep fuel s step
    let (s, traces) := runSteps fuel s steps
    (s, trace :: traces)

/-- Does steps in turn, up to the first one that fails. -/
def runUntil : Nat → Session → List Step → Session × Option StepFault × List Trace
  | 0, s, _ => (s, none, [])
  | _ + 1, s, [] => (s, none, [])
  | fuel + 1, s, step :: steps =>
    let (s, trace) := runStep fuel s step
    match trace.fault? with
    | some fault => (s, some fault, [trace])
    | none =>
      let (s, fault, traces) := runUntil fuel s steps
      (s, fault, trace :: traces)

/-- Does steps a number of times, up to the first one that fails. -/
def runAgain : Nat → Session → Nat → List Step → Session × Option StepFault × List Trace
  | 0, s, _, _ => (s, none, [])
  | _ + 1, s, 0, _ => (s, none, [])
  | fuel + 1, s, times + 1, steps =>
    match runUntil fuel s steps with
    | (s, some fault, traces) => (s, some fault, traces)
    | (s, none, traces) =>
      let (s, fault, more) := runAgain fuel s times steps
      (s, fault, traces ++ more)

/-- Does a monitored send. What comes out of it is what the send hands out. -/
def runCall : Nat → Session → Call Step → Session × Trace
  | 0, s, _ => (s, .again none [])
  | fuel + 1, s, c =>
    let code (s : Session) :=
      let (ran, traces) := runSteps fuel (s.advanceBy c.advance) c.body
      (ran, traces, c.ending)
    match s.resolve c.monitor with
    | .error fault => (s, (s.refuse fault).trace (some c.monitor))
    | .ok monitor =>
      match send c.path c.channel monitor code s with
      | .error fault left => (left, (left.refuse fault).trace (some c.monitor))
      | .ok sent left =>
        (left, .step sent.before sent.given sent.after (.outcome sent.ending.outcome)
          (left.readings? c.monitor))

/-- Brings a task to the point where it waits for its send, or to its end. A task that waits
already is brought to its end. -/
def runTask : Nat → Session → String → Bool → Session × Trace
  | 0, s, _, _ => (s, .again none [])
  | fuel + 1, s, name, toEnd =>
    match s.pendingCall name with
    | .error fault => (s, (s.refuse fault).trace none)
    | .ok (number, p) =>
      match resumeTask p.task s with
      | .error (.task e) left =>
        (left, .stuck number (if toEnd then .outcome (.refused e) else .failed (.task e)))
      | .error fault left => (left, (left.refuse fault).trace none)
      | .ok (t, records) resumed =>
        let isFirst := p.task.phase = .unstarted
        let before := if isFirst then interceptRecords p.call.path p.call.channel ++ records else []
        if isFirst && !toEnd then
          (resumed.setTask number t.suspend, .step before [] [] .nothing none)
        else
          let (ran, traces) :=
            runSteps fuel ((resumed.setTask number t).advanceBy p.call.advance) p.call.body
          let ending := p.call.ending
          match finishTask t ending.succeeds ran with
          | .error fault left => (left, (left.refuse fault).trace none)
          | .ok (t, held, after) finished =>
            let outcome := (ending.through held).outcome
            let reply := if toEnd then .outcome outcome else .failed (.ended outcome)
            (finished.setTask number t, .task number before traces after reply)

end

/-- Does all steps of a session. -/
def run (s : Session) (steps : List Step) : Session × List Trace :=
  runSteps (Step.costs steps) s steps

end SendMeter.Session
