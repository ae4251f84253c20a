import SendMeter.Json

namespace SendMeter.Session

/-- An error that a send ends with. -/
structure Raised where
  kind : String
  message : String
deriving DecidableEq, Repr

/-- How a send ends. -/
inductive Ending where
  | returns (result : Json)
  | raises (error : Raised)

/-- A send succeeds if it raises nothing. -/
def Ending.succeeds : Ending → Bool
  | .returns _ => true
  | .raises _ => false

/-- What comes out of a block when the code inside has ended. A value that is returned inside is
returned, and an error comes out unless the block holds it back. -/
def Ending.through (held : Bool) : Ending → Ending
  | .returns result => .returns result
  | .raises error => if held then .returns .null else .raises error

def Ending.raised? : Ending → Option Raised
  | .returns _ => none
  | .raises error => some error

/-- How the hooks get around a send. -/
inductive Path where
  /-- A block is entered and left. -/
  | block
  /-- The function that sends is wrapped. -/
  | wrapped
  /-- The function that sends is wrapped, and can be suspended. -/
  | wrappedTask
  /-- The channel is wrapped. -/
  | proxy
  /-- The channel is wrapped, and its sends can be suspended. -/
  | proxyTask
deriving DecidableEq, Repr

/-- One monitored send: time goes by, the steps of its body are done, and it ends. -/
structure Call (σ : Type) where
  path : Path
  monitor : String
  channel : String
  advance : Float
  body : List σ
  ending : Ending

/-- How a monitor is asked for by the name of its channel. -/
inductive Request where
  | register
  | get
  | getOrRegister
deriving DecidableEq, Repr

/-- Settings as far as they are given. -/
structure GivenSettings where
  window : Option Int
  periodUnit : Option Float
  averagingPeriod : Option Float

inductive Step where
  | advance (seconds : Float)
  | setClock (reading : Float)
  | request (how : Request) (name : String) (handle : Option String)
  | newMonitor (name : String) (settings : Option GivenSettings) (handle : Option String)
  | start (monitor ticket : String)
  | complete (monitor ticket : String) (success : Bool) (duration : Option Float)
  | newBlock (block monitor : String)
  | enter (block : String)
  | leave (block : String) (success : Bool)
  | call (c : Call Step)
  | newTask (task : String) (c : Call Step)
  | stepTask (task : String)
  | finishTask (task : String)
  | throwInto (task : String) (error : Raised)
  | closeTask (task : String)
  | proxyInfo (monitor channel : String) (isAsync : Bool)
  | proxyAttribute (monitor channel key : String)
  | snapshot (monitor : String)
  | stats (name : String)
  | allStats
  | describe (monitor : String)
  | destroy (monitor : String)
  | names
  | contains (name : String)
  | size
  | shutdown
  | again (times : Nat) (steps : List Step)

namespace Step

/-- The name of the monitor that a step is about. -/
def subject? : Step → Option String
  | request _ name handle => some (handle.getD name)
  | newMonitor name _ handle => some (handle.getD name)
  | start monitor _ => some monitor
  | complete monitor _ _ _ => some monitor
  | newBlock _ monitor => some monitor
  | call c => some c.monitor
  | newTask _ c => some c.monitor
  | proxyInfo monitor _ _ => some monitor
  | proxyAttribute monitor _ _ => some monitor
  | snapshot monitor => some monitor
  | stats name => some name
  | describe monitor => some monitor
  | destroy monitor => some monitor
  | contains name => some name
  | _ => none

mutual

/-- How many steps are done at most when a step is done, those of suspended sends included. -/
def cost : Step → Nat
  | call c => 4 + callCost c
  | newTask _ c => 4 + callCost c
  | again times steps => 4 + times * (1 + costs steps)
  | _ => 4

def callCost : Call Step → Nat
  | ⟨_, _, _, _, body, _⟩ => costs body

def costs : List Step → Nat
  | [] => 1
  | step :: steps => cost step + costs steps

end

end Step

end SendMeter.Session
