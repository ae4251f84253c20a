namespace SendMeter

/-- Attempted and failed sends. -/
structure Tally where
  total : Nat
  errors : Nat
deriving DecidableEq, Repr

namespace Tally

def empty : Tally := ⟨0, 0⟩

def addAttempt (t : Tally) : Tally :=
  { t with total := t.total + 1 }

def addError (t : Tally) : Tally :=
  { t with errors := t.errors + 1 }

@[simp] theorem total_addAttempt (t : Tally) : t.addAttempt.total = t.total + 1 := rfl

@[simp] theorem errors_addAttempt (t : Tally) : t.addAttempt.errors = t.errors := rfl

@[simp] theorem total_addError (t : Tally) : t.addError.total = t.total := rfl

@[simp] theorem errors_addError (t : Tally) : t.addError.errors = t.errors + 1 := rfl

end Tally

end SendMeter
