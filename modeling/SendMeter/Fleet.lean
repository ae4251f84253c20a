import SendMeter.Monitor

namespace SendMeter

variable {α : Type} [Scalar α]

/-- All monitors, and all tickets that they gave out, in the order in which they were made. -/
structure Fleet (α : Type) where
  monitors : List (Monitor α)
  tickets : List (Ticket α)

/-- Why a hook is refused. -/
inductive HookError (α : Type) where
  | noMonitor
  | noTicket
  | completion (error : CompletionError α)
deriving Repr

/-- The two calls around a send, with the reading of the clock. -/
inductive Hook (α : Type) where
  | start (monitor : Nat) (now : α)
  | complete (monitor ticket : Nat) (success : Bool) (duration : Option α) (now : α)
deriving Repr

namespace Fleet

def empty : Fleet α := ⟨[], []⟩

def add (f : Fleet α) (m : Monitor α) : Fleet α :=
  { f with monitors := f.monitors ++ [m] }

/-- The number that the next monitor gets. -/
def nextMonitor (f : Fleet α) : Nat := f.monitors.length

/-- The number that the next ticket gets. -/
def nextTicket (f : Fleet α) : Nat := f.tickets.length

/-- The fleet with a monitor put back in its place. -/
def putMonitor (monitor : Nat) (f : Fleet α) (m : Monitor α) : Fleet α :=
  { f with monitors := f.monitors.set monitor m }

/-- The fleet with a monitor and a ticket put back in their places. -/
def putBoth (monitor ticket : Nat) (f : Fleet α) (both : Monitor α × Ticket α) : Fleet α :=
  { monitors := f.monitors.set monitor both.1, tickets := f.tickets.set ticket both.2 }

/-- Starts a send on a monitor. The ticket gets the next number. -/
def startM (monitor : Nat) (now : α) : Work (Fleet α) (HookError α) Unit := do
  match (← get).monitors[monitor]? with
  | none => throw .noMonitor
  | some m =>
    let t ← Work.within m (putMonitor monitor)
      ((Monitor.startM now).mapError fun e => .completion (.arithmetic e))
    modify fun f => { f with tickets := f.tickets ++ [t] }

/-- Completes a ticket at a monitor. -/
def completeM (monitor ticket : Nat) (success : Bool) (duration : Option α) (now : α) :
    Work (Fleet α) (HookError α) Unit := do
  let f ← get
  match f.monitors[monitor]?, f.tickets[ticket]? with
  | none, _ => throw .noMonitor
  | _, none => throw .noTicket
  | some m, some t =>
    Work.within (m, t) (putBoth monitor ticket)
      ((Monitor.completeM success duration now).mapError .completion)

def applyM : Hook α → Work (Fleet α) (HookError α) Unit
  | .start monitor now => startM monitor now
  | .complete monitor ticket success duration now => completeM monitor ticket success duration now

/-- The fleet after a start. -/
def start (f : Fleet α) (monitor : Nat) (now : α) : Except (HookError α) (Fleet α) :=
  (startM monitor now).final f

/-- The fleet after a completion. -/
def complete (f : Fleet α) (monitor ticket : Nat) (success : Bool) (duration : Option α) (now : α) :
    Except (HookError α) (Fleet α) :=
  (completeM monitor ticket success duration now).final f

def apply (f : Fleet α) : Hook α → Except (HookError α) (Fleet α)
  | .start monitor now => f.start monitor now
  | .complete monitor ticket success duration now => f.complete monitor ticket success duration now

/-- A hook as it is called. Its arithmetic fails only if more sends were counted than a float can
stand for, `2 ^ 1023` at least; such a hook is taken to change nothing. -/
def callM (h : Hook α) : Work (Fleet α) (HookError α) Unit := fun f =>
  match applyM h f with
  | .ok given g => .ok given g
  | .error (.completion (.arithmetic e)) _ => .error (.completion (.arithmetic e)) f
  | .error e g => .error e g

/-- The fleet that is left after a hook, be it refused. -/
def after (f : Fleet α) (h : Hook α) : Fleet α :=
  (callM h).left f

theorem start_eq (f : Fleet α) (monitor : Nat) (now : α) : f.start monitor now =
    match f.monitors[monitor]? with
    | none => .error .noMonitor
    | some m =>
      match m.start now with
      | .error e => .error (.completion (.arithmetic e))
      | .ok (m, t) => .ok { monitors := f.monitors.set monitor m, tickets := f.tickets ++ [t] } := by
  simp only [start, Work.final, startM, Work.bind_apply, Work.get_apply]
  cases f.monitors[monitor]? with
  | none => rfl
  | some m =>
    simp only [Work.bind_apply, Work.within, Work.mapError, Monitor.start, Work.result]
    cases Monitor.startM now m with
    | ok t after => rfl
    | error e after => rfl

theorem complete_eq (f : Fleet α) (monitor ticket : Nat) (success : Bool) (duration : Option α)
    (now : α) : f.complete monitor ticket success duration now =
      match f.monitors[monitor]?, f.tickets[ticket]? with
      | none, _ => .error .noMonitor
      | _, none => .error .noTicket
      | some m, some t =>
        match m.complete t success duration now with
        | .error e => .error (.completion e)
        | .ok (m, t) =>
          .ok { monitors := f.monitors.set monitor m, tickets := f.tickets.set ticket t } := by
  simp only [complete, Work.final, completeM, Work.bind_apply, Work.get_apply]
  cases f.monitors[monitor]? with
  | none => rfl
  | some m =>
    cases f.tickets[ticket]? with
    | none => rfl
    | some t =>
      simp only [Work.within, Work.mapError, Monitor.complete, Work.final]
      cases Monitor.completeM success duration now (m, t) with
      | ok _ both => rfl
      | error e both => rfl

theorem apply_eq (f : Fleet α) (h : Hook α) : f.apply h = (applyM h).final f := by
  cases h with
  | start monitor now => rfl
  | complete monitor ticket success duration now => rfl

theorem apply_eq_ok_iff {f g : Fleet α} {h : Hook α} :
    f.apply h = .ok g ↔ applyM h f = .ok () g := by
  rw [apply_eq, Work.final_eq_ok_iff]
  exact ⟨fun ⟨_, hg⟩ => hg, fun hg => ⟨(), hg⟩⟩

omit [Scalar α] in
/-- Put back as they were, a monitor and a ticket leave the fleet as it was. -/
theorem putBoth_self {f : Fleet α} {monitor ticket : Nat} {m : Monitor α} {t : Ticket α}
    (hm : f.monitors[monitor]? = some m) (ht : f.tickets[ticket]? = some t) :
    putBoth monitor ticket f (m, t) = f := by
  obtain ⟨hlt, rfl⟩ := List.getElem?_eq_some_iff.mp hm
  obtain ⟨hlt', rfl⟩ := List.getElem?_eq_some_iff.mp ht
  rw [putBoth, List.set_getElem_self hlt, List.set_getElem_self hlt']

/-- A refused start has found no monitor, unless its arithmetic has failed. -/
private theorem startM_eq_error {f g : Fleet α} {monitor : Nat} {now : α} {e : HookError α}
    (hg : startM monitor now f = .error e g) :
    g = f ∨ ∃ error, e = .completion (.arithmetic error) := by
  simp only [startM, Work.bind_apply, Work.get_apply] at hg
  cases hm : f.monitors[monitor]? with
  | none =>
    rw [hm] at hg
    cases hg
    exact .inl rfl
  | some m =>
    rw [hm] at hg
    obtain hstart | ⟨t, started, -, hg⟩ := Work.bind_eq_error_iff.mp hg
    · simp only [Work.within] at hstart
      split at hstart
      · cases hstart
      next herror =>
        obtain ⟨error, -, rfl⟩ := Work.mapError_eq_error_iff.mp herror
        cases hstart
        exact .inr ⟨error, rfl⟩
    · cases hg

/-- A refused completion leaves the monitor and the ticket it was given as they were. -/
private theorem completeM_eq_error {f g : Fleet α} {monitor ticket : Nat} {success : Bool}
    {duration : Option α} {now : α} {e : HookError α}
    (hg : completeM monitor ticket success duration now f = .error e g) :
    g = f ∨ ∃ error, e = .completion (.arithmetic error) := by
  simp only [completeM, Work.bind_apply, Work.get_apply] at hg
  cases hm : f.monitors[monitor]? with
  | none =>
    rw [hm] at hg
    cases hg
    exact .inl rfl
  | some m =>
    cases ht : f.tickets[ticket]? with
    | none =>
      rw [hm, ht] at hg
      cases hg
      exact .inl rfl
    | some t =>
      rw [hm, ht] at hg
      simp only [Work.within] at hg
      split at hg
      · cases hg
      next herror =>
        obtain ⟨refused, hrefused, rfl⟩ := Work.mapError_eq_error_iff.mp herror
        cases hg
        obtain ⟨given, -, -, -, rfl⟩ | ⟨error, rfl⟩ := Monitor.completeM_eq_error hrefused
        · exact .inl (putBoth_self hm ht)
        · exact .inr ⟨error, rfl⟩

/-- A hook that is refused changes nothing, unless its arithmetic has failed. -/
theorem applyM_eq_error {f g : Fleet α} {h : Hook α} {e : HookError α}
    (hg : applyM h f = .error e g) : g = f ∨ ∃ error, e = .completion (.arithmetic error) := by
  cases h with
  | start monitor now => exact startM_eq_error hg
  | complete monitor ticket success duration now => exact completeM_eq_error hg

/-- What a call of a hook leaves: what the hook makes of the fleet if it is accepted, and the fleet
as it was if not. -/
theorem callM_eq (h : Hook α) (f : Fleet α) : callM h f =
    match f.apply h with
    | .ok g => .ok () g
    | .error e => .error e f := by
  unfold callM
  rw [apply_eq, Work.final]
  cases hg : applyM h f with
  | ok _ g => rfl
  | error e g =>
    obtain rfl | ⟨error, rfl⟩ := applyM_eq_error hg
    · split
      next heq => cases heq
      next heq =>
        cases heq
        rfl
      next heq =>
        cases heq
        rfl
    · rfl

theorem after_of_ok {f g : Fleet α} {h : Hook α} (hg : f.apply h = .ok g) : f.after h = g := by
  rw [after, Work.left, callM_eq, hg]

theorem after_of_error {f : Fleet α} {h : Hook α} {e : HookError α} (he : f.apply h = .error e) :
    f.after h = f := by
  rw [after, Work.left, callM_eq, he]

theorem length_of_apply {f g : Fleet α} {h : Hook α} (hg : f.apply h = .ok g) :
    g.monitors.length = f.monitors.length ∧ f.tickets.length ≤ g.tickets.length := by
  cases h with
  | start monitor now =>
    simp only [apply, start_eq] at hg
    split at hg
    · cases hg
    · split at hg
      · cases hg
      · cases hg
        simp
  | complete monitor ticket success duration now =>
    simp only [apply, complete_eq] at hg
    split at hg
    · cases hg
    · cases hg
    · split at hg
      · cases hg
      · cases hg
        simp

theorem length_monitors_after (f : Fleet α) (h : Hook α) :
    (f.after h).monitors.length = f.monitors.length := by
  cases hg : f.apply h with
  | ok g => rw [after_of_ok hg, (length_of_apply hg).1]
  | error e => rw [after_of_error hg]

/-- The fleet after a run of hooks. -/
def run (f : Fleet α) (hooks : List (Hook α)) : Fleet α :=
  hooks.foldl after f

@[simp] theorem run_nil (f : Fleet α) : f.run [] = f := rfl

@[simp] theorem run_cons (f : Fleet α) (h : Hook α) (hooks : List (Hook α)) :
    f.run (h :: hooks) = (f.after h).run hooks := rfl

theorem run_append (f : Fleet α) (hooks more : List (Hook α)) :
    f.run (hooks ++ more) = (f.run hooks).run more := by
  simp [run]

end Fleet

end SendMeter
