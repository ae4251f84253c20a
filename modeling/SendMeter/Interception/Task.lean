import SendMeter.Interception.Block

namespace SendMeter

variable {α : Type} [Scalar α]

inductive Phase where
  | unstarted
  | suspended
  /-- The code of the task is being run. -/
  | running
  | ended
deriving DecidableEq, Repr

structure Task where
  block : Block
  phase : Phase
deriving DecidableEq, Repr

/-- Why a task cannot go on. -/
inductive TaskError (α : Type) where
  | alreadyEnded
  | alreadyRunning
  | block (error : BlockError α)
deriving Repr

def TaskError.message : TaskError α → String
  | .alreadyEnded => "cannot reuse already awaited coroutine"
  | .alreadyRunning => "coroutine already executing"
  | .block e => e.message

namespace Task

/-- A task that has not been resumed. -/
def around (monitor : Nat) : Task := ⟨.around monitor, .unstarted⟩

/-- Brings a task to the point where its code runs: it starts its send if it has not done so. -/
def resumeM (t : Task) (now : α) : Work (Fleet α) (TaskError α) Task :=
  match t.phase with
  | .ended => throw .alreadyEnded
  | .running => throw .alreadyRunning
  | .suspended => return { t with phase := .running }
  | .unstarted => do
    let block ← (t.block.enterM now).mapError .block
    return { block, phase := .running }

/-- Has a task that runs wait for its send. -/
def suspend (t : Task) : Task := { t with phase := .suspended }

/-- Ends a task whose code ran to its end or failed, and tells whether its error is held back. -/
def finishM (t : Task) (success : Bool) (now : α) : Work (Fleet α) (TaskError α) (Task × Bool) := do
  let held ← (t.block.leaveM success now).mapError .block
  return ({ t with phase := .ended }, held)

/-- Ends a task from outside: its send, if there is one, has failed. An error that is thrown into a
task which has not begun is not held back. -/
def cancelM (t : Task) (now : α) : Work (Fleet α) (TaskError α) (Task × Bool) :=
  match t.phase with
  | .ended => throw .alreadyEnded
  | .running => throw .alreadyRunning
  | .unstarted => return ({ t with phase := .ended }, false)
  | .suspended => t.finishM false now

/-- The task after it was resumed, and the fleet. -/
def resume (t : Task) (f : Fleet α) (now : α) : Except (TaskError α) (Task × Fleet α) :=
  ((t.resumeM now).result f).map Prod.swap

/-- The task after it has ended, and the fleet. -/
def finish (t : Task) (success : Bool) (f : Fleet α) (now : α) :
    Except (TaskError α) (Task × Fleet α) :=
  ((t.finishM success now).result f).map fun ended => (ended.2.1, ended.1)

def cancel (t : Task) (f : Fleet α) (now : α) : Except (TaskError α) (Task × Fleet α) :=
  ((t.cancelM now).result f).map fun ended => (ended.2.1, ended.1)

/-- A task that cannot be resumed leaves the fleet as it was. -/
theorem resumeM_eq (t : Task) (f : Fleet α) (now : α) : t.resumeM now f =
    match t.phase with
    | .ended => .error .alreadyEnded f
    | .running => .error .alreadyRunning f
    | .suspended => .ok { t with phase := .running } f
    | .unstarted =>
      match f.start t.block.monitor now with
      | .error e => .error (.block (.hook e)) f
      | .ok started =>
        .ok ⟨{ t.block with ticket := some f.nextTicket }, .running⟩ started := by
  unfold resumeM
  cases t.phase with
  | ended => rfl
  | running => rfl
  | suspended => rfl
  | unstarted =>
    simp only [Work.bind_apply, Work.mapError, Block.enterM_eq]
    cases f.start t.block.monitor now with
    | error e => rfl
    | ok started => rfl

/-- No error is held back, and a task that cannot be ended leaves the fleet as it was. -/
theorem finishM_eq (t : Task) (success : Bool) (f : Fleet α) (now : α) : t.finishM success now f =
    match t.block.ticket with
    | none => .error (.block .notEntered) f
    | some ticket =>
      match f.complete t.block.monitor ticket success none now with
      | .error e => .error (.block (.hook e)) f
      | .ok left => .ok ({ t with phase := .ended }, false) left := by
  simp only [finishM, Work.bind_apply, Work.mapError, Block.leaveM_eq]
  cases t.block.ticket with
  | none => rfl
  | some ticket =>
    dsimp only
    cases f.complete t.block.monitor ticket success none now with
    | error e => rfl
    | ok left => rfl

end Task

end SendMeter
