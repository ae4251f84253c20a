import SendMeter.Fleet

namespace SendMeter

variable {α : Type} [Scalar α]

structure Block where
  monitor : Nat
  ticket : Option Nat
deriving DecidableEq, Repr

/-- Why a block cannot be entered or left. -/
inductive BlockError (α : Type) where
  | notEntered
  | hook (error : HookError α)
deriving Repr

/-- A message is written only for a block that was not entered. -/
def BlockError.message : BlockError α → String
  | .notEntered => "'NoneType' object has no attribute 'completed'"
  | .hook _ => ""

namespace Block

/-- A block that has not been entered. -/
def around (monitor : Nat) : Block := ⟨monitor, none⟩

/-- Starts a send, and keeps its ticket. -/
def enterM (b : Block) (now : α) : Work (Fleet α) (BlockError α) Block := do
  let ticket := (← get).nextTicket
  (Fleet.callM (.start b.monitor now)).mapError .hook
  return { b with ticket := some ticket }

/-- Completes the send, and tells whether an error of the code inside is held back. None is. -/
def leaveM (b : Block) (success : Bool) (now : α) : Work (Fleet α) (BlockError α) Bool :=
  match b.ticket with
  | none => throw .notEntered
  | some ticket => do
    (Fleet.callM (.complete b.monitor ticket success none now)).mapError .hook
    return false

/-- A block that cannot be entered leaves the fleet as it was. -/
theorem enterM_eq (b : Block) (f : Fleet α) (now : α) : b.enterM now f =
    match f.start b.monitor now with
    | .error e => .error (.hook e) f
    | .ok started => .ok { b with ticket := some f.nextTicket } started := by
  simp only [enterM, Work.bind_apply, Work.get_apply, Work.mapError, Fleet.callM_eq, Fleet.apply]
  cases f.start b.monitor now with
  | error e => rfl
  | ok started => rfl

/-- A block that cannot be left leaves the fleet as it was. -/
theorem leaveM_eq (b : Block) (success : Bool) (f : Fleet α) (now : α) : b.leaveM success now f =
    match b.ticket with
    | none => .error .notEntered f
    | some ticket =>
      match f.complete b.monitor ticket success none now with
      | .error e => .error (.hook e) f
      | .ok left => .ok false left := by
  unfold leaveM
  cases b.ticket with
  | none => rfl
  | some ticket =>
    simp only [Work.bind_apply, Work.mapError, Fleet.callM_eq, Fleet.apply]
    cases f.complete b.monitor ticket success none now with
    | error e => rfl
    | ok left => rfl

end Block

end SendMeter
