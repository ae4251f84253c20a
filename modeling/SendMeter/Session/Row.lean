import SendMeter.Session.Run

namespace SendMeter.Session

inductive Row where
  | row (reply : Reply) (body : List Row) (readings : Option Readings) (log : List Log.Record)

/-- What has been captured: the records that no row has taken yet, and the rows of the bodies of
tasks, the latest one first. -/
structure Recorder where
  threshold : Log.Level
  pending : List Log.Record
  bodies : List (Nat × Row)

namespace Recorder

def add (r : Recorder) (records : List Log.Record) : Recorder :=
  { r with pending := r.pending ++ records.filter (·.atLeast r.threshold) }

/-- A row in the body of a task, if it is in one. -/
def note (r : Recorder) (task : Option Nat) (row : Row) : Recorder :=
  match task with
  | some number => { r with bodies := (number, row) :: r.bodies }
  | none => r

/-- The rows of the body of a task, as far as it has been run. -/
def bodyOf (r : Recorder) (task : Nat) : List Row :=
  ((r.bodies.filter (·.1 == task)).map (·.2)).reverse

end Recorder

/-- Whether the body of a task is shown with a reply. -/
def Reply.showsBody : Reply → Bool
  | .outcome _ => true
  | _ => false

def Trace.reply : Trace → Reply
  | .step _ _ _ reply _ => reply
  | .task _ _ _ _ reply => reply
  | .stuck _ reply => reply
  | .again fault _ => (fault.map .failed).getD .nothing

def Trace.readings : Trace → Option Readings
  | .step _ _ _ _ readings => readings
  | _ => none

mutual

/-- The rows inside a trace, before the trace gets its own row. -/
def Trace.inside (r : Recorder) : Trace → List Row × Recorder
  | .step before body after _ _ =>
    let (rows, r) := Trace.rows none (r.add before) body
    (rows, r.add after)
  | .task number before body after reply =>
    let (rows, r) := Trace.rows (some number) (r.add before) body
    (if reply.showsBody then rows else [], r.add after)
  | .stuck number reply => (if reply.showsBody then r.bodyOf number else [], r)
  | .again _ steps => ([], Trace.unshown r steps)

/-- The rows of steps in the body of a task, or elsewhere. A row takes the records that are
pending, and that of repeated steps drops them. -/
def Trace.rows (task : Option Nat) (r : Recorder) : List Trace → List Row × Recorder
  | [] => ([], r)
  | trace :: traces =>
    let (body, r) := Trace.inside r trace
    let log := match trace with
      | .again _ _ => []
      | _ => r.pending
    let row := .row trace.reply body trace.readings log
    let (rows, r) := Trace.rows task ({ r with pending := [] }.note task row) traces
    (row :: rows, r)

/-- Steps that get no rows. -/
def Trace.unshown (r : Recorder) : List Trace → Recorder
  | [] => r
  | trace :: traces => Trace.unshown (Trace.inside r trace).2 traces

end

/-- The rows of all steps, with the records from a level on. -/
def rows (s : Session) (threshold : Log.Level) (steps : List Step) : List Row :=
  (Trace.rows none { threshold, pending := [], bodies := [] } (s.run steps).2).1

end SendMeter.Session
