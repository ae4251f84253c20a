import SendMeter.History.Durations
import SendMeter.History.Outcomes
import SendMeter.History.Rate
import SendMeter.Settings
import SendMeter.Tally
import SendMeter.Work

namespace SendMeter

variable {α : Type} [Scalar α]

/-- A send that has been started. -/
structure Ticket (α : Type) where
  channel : String
  startedAt : α
  completed : Bool
deriving DecidableEq, Repr

/-- What is known of the sends on a channel. -/
structure Monitor (α : Type) where
  name : String
  settings : Settings α
  tally : Tally
  /-- Durations of the sends that succeeded. -/
  durations : Durations α
  /-- The rate of all sends. -/
  sends : Rate α
  /-- The rate of the sends that failed. -/
  failures : Rate α
  outcomes : Outcomes α

/-- Why a completion is refused. -/
inductive CompletionError (α : Type) where
  | negativeDuration (duration : α)
  | arithmetic (error : ArithmeticError)
deriving Repr

def CompletionError.message : CompletionError Float → String
  | .negativeDuration duration => "Send duration must be >= 0, got " ++ shown duration
  | .arithmetic error => error.message

namespace Monitor

/-- A monitor without sends. The clock is assumed to stand still in the call: both rates begin at
the same reading of it. -/
def create (name : String) (s : Settings α) (now : α) : Except (HistoryError α) (Monitor α) := do
  let durations ← Durations.create s.window
  let sends ← Rate.create s.window s.periodUnit s.averagingPeriod none now
  let failures ← Rate.create s.window s.periodUnit s.averagingPeriod none now
  let outcomes ← Outcomes.create s.window
  return { name, settings := s, tally := .empty, durations, sends, failures, outcomes }

/-- The ticket of a send that starts now. -/
def ticket (m : Monitor α) (now : α) : Ticket α :=
  { channel := m.name, startedAt := now, completed := false }

/-- Counts one more send, then its place in the rate of sends, and gives out its ticket. The clock
is assumed to stand still in the call: the ticket and the event of the rate have the same reading.
-/
def startM (now : α) : Work (Monitor α) ArithmeticError (Ticket α) := do
  let t := (← get).ticket now
  modify fun m => { m with tally := m.tally.addAttempt }
  let sends ← ofExcept ((← get).sends.increment now)
  modify fun m => { m with sends }
  return t

/-- Records a send that succeeded, with its duration. -/
def recordSuccessM (duration now : α) : Work (Monitor α) ArithmeticError Unit := do
  let outcomes ← ofExcept ((← get).outcomes.record true now)
  modify fun m => { m with outcomes }
  let durations ← ofExcept ((← get).durations.append duration now)
  modify fun m => { m with durations }

/-- Records a send that failed. Failed sends have no duration. -/
def recordFailureM (now : α) : Work (Monitor α) ArithmeticError Unit := do
  modify fun m => { m with tally := m.tally.addError }
  let outcomes ← ofExcept ((← get).outcomes.record false now)
  modify fun m => { m with outcomes }
  let failures ← ofExcept ((← get).failures.increment now)
  modify fun m => { m with failures }

def recordOutcomeM (success : Bool) (duration now : α) : Work (Monitor α) ArithmeticError Unit :=
  if success then recordSuccessM duration now else recordFailureM now

/-- The monitor after a start, and the ticket. -/
def start (m : Monitor α) (now : α) : Except ArithmeticError (Monitor α × Ticket α) :=
  (startM now).result m

def recordSuccess (m : Monitor α) (duration now : α) : Except ArithmeticError (Monitor α) :=
  (recordSuccessM duration now).final m

def recordFailure (m : Monitor α) (now : α) : Except ArithmeticError (Monitor α) :=
  (recordFailureM now).final m

def recordOutcome (m : Monitor α) (success : Bool) (duration now : α) :
    Except ArithmeticError (Monitor α) :=
  (recordOutcomeM success duration now).final m

theorem start_eq (m : Monitor α) (now : α) : m.start now = do
    let sends ← m.sends.increment now
    return ({ m with tally := m.tally.addAttempt, sends }, m.ticket now) := by
  simp only [start, Work.result, startM, Work.bind_apply, Work.get_apply, Work.modify_apply]
  cases m.sends.increment now with
  | error e => rfl
  | ok sends => rfl

theorem recordSuccess_eq (m : Monitor α) (duration now : α) : m.recordSuccess duration now = do
    let outcomes ← m.outcomes.record true now
    let durations ← m.durations.append duration now
    return { m with outcomes, durations } := by
  simp only [recordSuccess, Work.final, recordSuccessM, Work.bind_apply, Work.get_apply,
    Work.modify_apply]
  cases m.outcomes.record true now with
  | error e => rfl
  | ok outcomes =>
    cases hdurations : m.durations.append duration now with
    | error e => simp [hdurations, bind, Except.bind]
    | ok durations => simp [hdurations, bind, Except.bind, pure, Except.pure]

theorem recordFailure_eq (m : Monitor α) (now : α) : m.recordFailure now = do
    let outcomes ← m.outcomes.record false now
    let failures ← m.failures.increment now
    return { m with tally := m.tally.addError, outcomes, failures } := by
  simp only [recordFailure, Work.final, recordFailureM, Work.bind_apply, Work.get_apply,
    Work.modify_apply]
  cases m.outcomes.record false now with
  | error e => rfl
  | ok outcomes =>
    cases hfailures : m.failures.increment now with
    | error e => simp [hfailures, bind, Except.bind]
    | ok failures => simp [hfailures, bind, Except.bind, pure, Except.pure]

theorem recordOutcome_eq (m : Monitor α) (success : Bool) (duration now : α) :
    m.recordOutcome success duration now =
      if success then m.recordSuccess duration now else m.recordFailure now := by
  cases success with
  | true => rfl
  | false => rfl

end Monitor

/-- The time since a send was started, zero if the clock went backwards. -/
def Ticket.elapsed (t : Ticket α) (now : α) : α :=
  Scalar.maximum Scalar.zero (now - t.startedAt)

/-- The duration of a send: the one that is given, or the time since its start. -/
def Ticket.duration (t : Ticket α) (given : Option α) (now : α) : α :=
  given.getD (t.elapsed now)

namespace Monitor

/-- Takes a ticket, and tells whether it was taken before. -/
def claim : Work (Monitor α × Ticket α) (CompletionError α) Bool :=
  modifyGet fun (m, t) => (t.completed, m, { t with completed := true })

/-- Records the end of a send. A negative duration is refused before the ticket is taken, so that it
stays open; what is said about a ticket that was taken before is ignored. The clock is assumed to
stand still in the call: the time since the start ends at the reading that dates the histories. -/
def completeM (success : Bool) (given : Option α) (now : α) :
    Work (Monitor α × Ticket α) (CompletionError α) Unit :=
  match given.filter fun duration => duration < Scalar.zero with
  | some duration => throw (.negativeDuration duration)
  | none => do
    if ← claim then
      return ()
    else
      let (m, t) ← get
      let record := recordOutcomeM success (t.duration given now) now
      Work.within m (fun both m => (m, both.2)) (record.mapError .arithmetic)

/-- The monitor and the ticket after a completion. -/
def complete (m : Monitor α) (t : Ticket α) (success : Bool) (given : Option α) (now : α) :
    Except (CompletionError α) (Monitor α × Ticket α) :=
  (completeM success given now).final (m, t)

theorem complete_eq (m : Monitor α) (t : Ticket α) (success : Bool) (given : Option α) (now : α) :
    m.complete t success given now =
      match given.filter fun duration => duration < Scalar.zero with
      | some duration => .error (.negativeDuration duration)
      | none =>
        if t.completed then .ok (m, t)
        else match m.recordOutcome success (t.duration given now) now with
          | .error e => .error (.arithmetic e)
          | .ok m => .ok (m, { t with completed := true }) := by
  unfold complete completeM
  cases given.filter fun duration => duration < Scalar.zero with
  | some duration => rfl
  | none =>
    obtain ⟨channel, startedAt, completed⟩ := t
    cases completed with
    | true => rfl
    | false =>
      simp only [Work.final, Work.bind_apply, claim, Work.modifyGet_apply, Work.get_apply,
        Work.within, Work.mapError, recordOutcome, Bool.false_eq_true, if_false]
      have hduration : (Ticket.mk channel startedAt true).duration given now =
          (Ticket.mk channel startedAt false).duration given now := rfl
      rw [hduration]
      cases
        recordOutcomeM success ((Ticket.mk channel startedAt false).duration given now) now m with
      | ok _ after => rfl
      | error e after => rfl

/-- A completion is refused for a negative duration, and leaves the monitor and the ticket as they
were, or its arithmetic fails. -/
theorem completeM_eq_error {success : Bool} {given : Option α} {now : α}
    {both left : Monitor α × Ticket α} {e : CompletionError α}
    (h : completeM success given now both = .error e left) :
    (∃ duration, given = some duration ∧ duration < Scalar.zero ∧ e = .negativeDuration duration ∧
      left = both) ∨ ∃ error, e = .arithmetic error := by
  unfold completeM at h
  cases hgiven : given.filter fun duration => duration < Scalar.zero with
  | some duration =>
    rw [hgiven] at h
    cases h
    obtain ⟨hsome, hnegative⟩ := Option.filter_eq_some_iff.mp hgiven
    exact .inl ⟨duration, hsome, of_decide_eq_true hnegative, rfl, rfl⟩
  | none =>
    rw [hgiven] at h
    right
    obtain hclaim | ⟨taken, claimed, -, h⟩ := Work.bind_eq_error_iff.mp h
    · cases hclaim
    · cases taken with
      | true => cases h
      | false =>
        simp only [Bool.false_eq_true, if_false, Work.bind_apply, Work.get_apply, Work.within] at h
        split at h
        · cases h
        next herror =>
          obtain ⟨error, -, heq⟩ := Work.mapError_eq_error_iff.mp herror
          cases h
          exact ⟨error, heq.symm⟩

def sendCount (m : Monitor α) : Nat := m.tally.total

def errorCount (m : Monitor α) : Nat := m.tally.errors

def sinceLastSend (m : Monitor α) (now : α) : α := m.sends.average.sinceLast now

def sendRate (m : Monitor α) (now : α) : Except ArithmeticError α := m.sends.mean now

def errorRate (m : Monitor α) (now : α) : Except ArithmeticError α := m.failures.mean now

def errorRatio (m : Monitor α) : α := m.outcomes.errorRatio

def meanDuration (m : Monitor α) : α := m.durations.average.mean

def minDuration (m : Monitor α) : α := m.durations.minimum

def maxDuration (m : Monitor α) : α := m.durations.maximum

theorem complete_completed (m : Monitor α) {t : Ticket α} (success : Bool) (now : α)
    (h : t.completed = true) : m.complete t success none now = .ok (m, t) := by
  simp [complete_eq, h]

end Monitor

end SendMeter
