import SendMeter.Session.State

namespace SendMeter.Session

variable {ρ β : Type}

/-- Work on the fleet of a session. -/
def onFleet (w : Work (Fleet Float) StepFault β) : Work Session StepFault β := fun s =>
  Work.within s.fleet withFleet w s

/-- Enters a block. -/
def enterBlock (b : Block) : Work Session StepFault (Block × List Log.Record) := do
  let s ← get
  let entered ← onFleet ((b.enterM s.clock).mapError .block)
  return (entered, s.startRecords b.monitor)

/-- Leaves a block, and tells whether it holds an error back. -/
def leaveBlock (b : Block) (success : Bool) : Work Session StepFault (Bool × List Log.Record) := do
  let s ← get
  let held ← onFleet ((b.leaveM success s.clock).mapError .block)
  return (held, s.leaveRecords b success)

/-- Brings a task to the point where its code runs. -/
def resumeTask (t : Task) : Work Session StepFault (Task × List Log.Record) := do
  let s ← get
  let resumed ← onFleet ((t.resumeM s.clock).mapError .task)
  return (resumed, if t.phase = .unstarted then s.startRecords t.block.monitor else [])

/-- Ends a task whose code has run, and tells whether its error is held back. -/
def finishTask (t : Task) (success : Bool) :
    Work Session StepFault (Task × Bool × List Log.Record) := do
  let s ← get
  let (ended, held) ← onFleet ((t.finishM success s.clock).mapError .task)
  return (ended, held, s.leaveRecords t.block success)

/-- Ends a task from outside, and tells whether an error that was thrown into it is held back. -/
def cancelTask (t : Task) : Work Session StepFault (Task × Bool × List Log.Record) := do
  let s ← get
  let (ended, held) ← onFleet ((t.cancelM s.clock).mapError .task)
  return (ended, held, if t.phase = .suspended then s.leaveRecords t.block false else [])

/-- Code that runs inside a send, whatever it does to the session. It gives something besides, and
ends with a value or with an error. -/
abbrev Code (ρ : Type) := Session → Session × ρ × Ending

/-- Runs code. An error that it ends with is no fault of the step. -/
def runCode (code : Code ρ) : Work Session StepFault (ρ × Ending) := fun s =>
  let (s, given, ending) := code s
  .ok (given, ending) s

/-- A send that has ended: what its code gave, what came out of the send, and the records written
before the code and after it. -/
structure Sent (ρ : Type) where
  given : ρ
  ending : Ending
  before : List Log.Record
  after : List Log.Record

/-- A send in a block. -/
def sendInBlock (monitor : Nat) (code : Code ρ) : Work Session StepFault (Sent ρ) := do
  let (b, before) ← enterBlock (.around monitor)
  let (given, ending) ← runCode code
  let (held, after) ← leaveBlock b ending.succeeds
  return { given, ending := ending.through held, before, after }

/-- A send in a task that is suspended once and is then run to its end. -/
def sendInTask (monitor : Nat) (code : Code ρ) : Work Session StepFault (Sent ρ) := do
  let (t, before) ← resumeTask (.around monitor)
  let (t, _) ← resumeTask t.suspend
  let (given, ending) ← runCode code
  let (_, held, after) ← finishTask t ending.succeeds
  return { given, ending := ending.through held, before, after }

/-- The records of a proxy in front of a send. -/
def interceptRecords (path : Path) (channel : String) : List Log.Record :=
  match path with
  | .proxy => [⟨.debug, Log.interceptorLogger,
      "Intercepted send on " ++ (Channel.named channel false).describe⟩]
  | .proxyTask => [⟨.debug, Log.interceptorLogger,
      "Intercepted async send on " ++ (Channel.named channel true).describe⟩]
  | _ => []

def Path.isTask : Path → Bool
  | .wrappedTask => true
  | .proxyTask => true
  | _ => false

/-- A send on any path, run straight to its end. -/
def send (path : Path) (channel : String) (monitor : Nat) (code : Code ρ) :
    Work Session StepFault (Sent ρ) := do
  let sent ← if path.isTask then sendInTask monitor code else sendInBlock monitor code
  return { sent with before := interceptRecords path channel ++ sent.before }

end SendMeter.Session
