import SendMeter.Proofs.Interception.Steps
import SendMeter.Session.Run

namespace SendMeter.Session

/-- A hook that is called, or a task that is ended before it called any. -/
inductive Event where
  /-- A hook that is called by no task. -/
  | hook (h : Hook Float)
  /-- A task is resumed for the first time. -/
  | begun (task : Nat) (h : Hook Float)
  /-- The code of a task comes to its end. -/
  | finished (task : Nat) (ending : Ending) (h : Hook Float)
  /-- A task is ended from outside: an error is thrown into it, or it is closed. -/
  | cancelled (task : Nat) (h : Option (Hook Float))

namespace Event

def task? : Event → Option Nat
  | hook _ => none
  | begun task _ => some task
  | finished task _ _ => some task
  | cancelled task _ => some task

def hook? : Event → Option (Hook Float)
  | hook h => some h
  | begun _ h => some h
  | finished _ _ h => some h
  | cancelled _ h => h

end Event

/-- The hooks that are called, by tasks and by others. -/
def hooksOf (events : List Event) : List (Hook Float) :=
  events.filterMap Event.hook?

@[simp] theorem hooksOf_append (events more : List Event) :
    hooksOf (events ++ more) = hooksOf events ++ hooksOf more :=
  List.filterMap_append

/-- The events of one task. -/
def eventsOf (task : Nat) (events : List Event) : List Event :=
  events.filter (·.task? = some task)

theorem eventsOf_append (task : Nat) (events more : List Event) :
    eventsOf task (events ++ more) = eventsOf task events ++ eventsOf task more :=
  List.filter_append events more

/-- A ticket that was given out, and is not that of a task. -/
structure Free (s : Session) (ticket : Nat) : Prop where
  lt_length : ticket < s.fleet.tickets.length
  ne_ticket : ∀ p ∈ s.tasks, p.task.block.ticket ≠ some ticket

/-- One change of a session, with the event that it is. -/
inductive Move (s s' : Session) : List Event → Prop where
  /-- Time goes by, or a name is given. -/
  | idle (hfleet : s'.fleet = s.fleet) (htasks : s'.tasks = s.tasks) : Move s s' []
  | monitor {name : String} {settings : Settings Float} {m : Monitor Float}
      (hcreate : Monitor.create name settings s.clock = .ok m)
      (hfleet : s'.fleet = s.fleet.add m) (htasks : s'.tasks = s.tasks) : Move s s' []
  | task {monitor : Nat} {c : Call Step} (hmonitor : monitor < s.fleet.monitors.length)
      (hfleet : s'.fleet = s.fleet) (htasks : s'.tasks = s.tasks ++ [⟨.around monitor, c⟩]) :
      Move s s' []
  | start {monitor : Nat} (hstart : s.fleet.start monitor s.clock = .ok s'.fleet)
      (htasks : s'.tasks = s.tasks) : Move s s' [.hook (.start monitor s.clock)]
  /-- The tickets of tasks are out of reach for everybody else. -/
  | complete {monitor ticket : Nat} {success : Bool} {duration : Option Float}
      (hfree : s.Free ticket)
      (hcomplete : s.fleet.complete monitor ticket success duration s.clock = .ok s'.fleet)
      (htasks : s'.tasks = s.tasks) :
      Move s s' [.hook (.complete monitor ticket success duration s.clock)]
  | begin {task : Nat} {p : PendingCall} {t : Task} (hp : s.tasks[task]? = some p)
      (hphase : p.task.phase = .unstarted)
      (hresume : p.task.resume s.fleet s.clock = .ok (t, s'.fleet))
      (htasks : s'.tasks = (s.setTask task t).tasks) :
      Move s s' [.begun task (.start p.task.block.monitor s.clock)]
  | suspend {task : Nat} {p : PendingCall} (hp : s.tasks[task]? = some p)
      (hphase : p.task.phase = .running) (hfleet : s'.fleet = s.fleet)
      (htasks : s'.tasks = (s.setTask task p.task.suspend).tasks) : Move s s' []
  | resume {task : Nat} {p : PendingCall} {t : Task} (hp : s.tasks[task]? = some p)
      (hphase : p.task.phase = .suspended)
      (hresume : p.task.resume s.fleet s.clock = .ok (t, s'.fleet))
      (htasks : s'.tasks = (s.setTask task t).tasks) : Move s s' []
  /-- A task that runs has come to the end of its code, with the ending of its call. -/
  | finish {task ticket : Nat} {p : PendingCall} {t : Task} (hp : s.tasks[task]? = some p)
      (hphase : p.task.phase = .running) (hticket : p.task.block.ticket = some ticket)
      (hfinish : p.task.finish p.call.ending.succeeds s.fleet s.clock = .ok (t, s'.fleet))
      (htasks : s'.tasks = (s.setTask task t).tasks) :
      Move s s' [.finished task p.call.ending
        (.complete p.task.block.monitor ticket p.call.ending.succeeds none s.clock)]
  | cancel {task ticket : Nat} {p : PendingCall} {t : Task} (hp : s.tasks[task]? = some p)
      (hphase : p.task.phase = .suspended) (hticket : p.task.block.ticket = some ticket)
      (hcancel : p.task.cancel s.fleet s.clock = .ok (t, s'.fleet))
      (htasks : s'.tasks = (s.setTask task t).tasks) :
      Move s s' [.cancelled task
        (some (.complete p.task.block.monitor ticket false none s.clock))]
  | drop {task : Nat} {p : PendingCall} {t : Task} (hp : s.tasks[task]? = some p)
      (hphase : p.task.phase = .unstarted)
      (hcancel : p.task.cancel s.fleet s.clock = .ok (t, s'.fleet))
      (htasks : s'.tasks = (s.setTask task t).tasks) : Move s s' [.cancelled task none]

/-- A chain of moves, with its events in their order. -/
inductive Reaches (s₀ : Session) : List Event → Session → Prop where
  | refl : Reaches s₀ [] s₀
  | tail {events new : List Event} {s s' : Session} (h : Reaches s₀ events s)
      (hmove : Move s s' new) : Reaches s₀ (events ++ new) s'

variable {s s' s'' : Session} {events more new : List Event}

theorem Move.reaches (h : Move s s' new) : Reaches s new s' :=
  .tail .refl h

theorem Reaches.trans (h : Reaches s events s') (h' : Reaches s' more s'') :
    Reaches s (events ++ more) s'' := by
  induction h' with
  | refl => rwa [List.append_nil]
  | tail _ hmove ih =>
    rw [← List.append_assoc]
    exact .tail ih hmove

theorem getElem?_setTask (s : Session) (task other : Nat) (t : Task) :
    (s.setTask task t).tasks[other]? =
      if task = other then s.tasks[other]?.map fun p => { p with task := t }
      else s.tasks[other]? := by
  simp only [setTask, List.getElem?_modify]
  split
  · rfl
  · simp

theorem setTask_setTask (s : Session) (task : Nat) (t u : Task) :
    (s.setTask task t).setTask task u = s.setTask task u := by
  simp only [setTask, List.modify_modify_eq]
  rfl

theorem getElem?_setTask_self {task : Nat} {p : PendingCall} (hp : s.tasks[task]? = some p)
    (t : Task) : (s.setTask task t).tasks[task]? = some { p with task := t } := by
  rw [getElem?_setTask, if_pos rfl, hp]
  rfl

theorem getElem?_setTask_of_ne {task other : Nat} (hne : task ≠ other) (t : Task) :
    (s.setTask task t).tasks[other]? = s.tasks[other]? := by
  rw [getElem?_setTask, if_neg hne]

theorem getElem?_setTask_cases {task other : Nat} {p q : PendingCall} {t : Task}
    (hp : s.tasks[task]? = some p) (hq : (s.setTask task t).tasks[other]? = some q) :
    (task = other ∧ q = { p with task := t }) ∨ (task ≠ other ∧ s.tasks[other]? = some q) := by
  by_cases heq : task = other
  · subst other
    rw [getElem?_setTask_self hp] at hq
    exact .inl ⟨rfl, (Option.some.inj hq).symm⟩
  · rw [getElem?_setTask_of_ne heq] at hq
    exact .inr ⟨heq, hq⟩

/-- A move calls one hook or none, or a monitor is made. -/
theorem Move.fleet_cases (h : Move s s' new) :
    (hooksOf new = [] ∧ (s'.fleet = s.fleet ∨ ∃ name settings m,
      Monitor.create name settings s.clock = .ok m ∧ s'.fleet = s.fleet.add m)) ∨
    (∃ hook, hooksOf new = [hook] ∧ s.fleet.apply hook = .ok s'.fleet) := by
  cases h with
  | idle hfleet _ => exact .inl ⟨rfl, .inl hfleet⟩
  | monitor hcreate hfleet _ => exact .inl ⟨rfl, .inr ⟨_, _, _, hcreate, hfleet⟩⟩
  | task _ hfleet _ => exact .inl ⟨rfl, .inl hfleet⟩
  | start hstart _ => exact .inr ⟨_, rfl, hstart⟩
  | complete _ hcomplete _ => exact .inr ⟨_, rfl, hcomplete⟩
  | begin _ hphase hresume _ =>
    exact .inr ⟨_, rfl, (Task.resume_unstarted_eq_ok hphase hresume).1⟩
  | suspend _ _ hfleet _ => exact .inl ⟨rfl, .inl hfleet⟩
  | resume _ hphase hresume _ =>
    exact .inl ⟨rfl, .inl (Task.resume_suspended_eq_ok hphase hresume).2⟩
  | finish _ _ hticket hfinish _ =>
    exact .inr ⟨_, rfl, (Task.finish_eq_ok_of_ticket hticket hfinish).1⟩
  | cancel _ hphase hticket hcancel _ =>
    have hfinish := Task.cancel_suspended_eq_ok hphase hcancel
    exact .inr ⟨_, rfl, (Task.finish_eq_ok_of_ticket hticket hfinish).1⟩
  | drop _ hphase hcancel _ =>
    exact .inl ⟨rfl, .inl (Task.cancel_unstarted_eq_ok hphase hcancel).2⟩

/-- A move leaves the tasks as they are, makes a new one, or changes one of them, which then keeps
its ticket or is given the next one. -/
theorem Move.tasks_cases (h : Move s s' new) :
    s'.tasks = s.tasks ∨
    (∃ monitor c, monitor < s.fleet.monitors.length ∧
      s'.tasks = s.tasks ++ [⟨.around monitor, c⟩]) ∨
    ∃ task p t, s.tasks[task]? = some p ∧ s'.tasks = (s.setTask task t).tasks ∧
      t.block.monitor = p.task.block.monitor ∧
      (t.block.ticket = p.task.block.ticket ∨
        t.block.ticket = some s.fleet.nextTicket ∧
          s.fleet.nextTicket < s'.fleet.tickets.length) := by
  cases h with
  | idle _ htasks => exact .inl htasks
  | monitor _ _ htasks => exact .inl htasks
  | task hmonitor _ htasks => exact .inr (.inl ⟨_, _, hmonitor, htasks⟩)
  | start _ htasks => exact .inl htasks
  | complete _ _ htasks => exact .inl htasks
  | begin hp hphase hresume htasks =>
    obtain ⟨hstart, rfl⟩ := Task.resume_unstarted_eq_ok hphase hresume
    obtain ⟨m, started, t, -, -, hfleet⟩ := Fleet.apply_start_eq_ok (h := hstart)
    refine .inr (.inr ⟨_, _, _, hp, htasks, rfl, .inr ⟨rfl, ?_⟩⟩)
    rw [hfleet, List.length_append]
    exact Nat.lt_succ_self _
  | suspend hp _ _ htasks => exact .inr (.inr ⟨_, _, _, hp, htasks, rfl, .inl rfl⟩)
  | resume hp hphase hresume htasks =>
    obtain ⟨rfl, -⟩ := Task.resume_suspended_eq_ok hphase hresume
    exact .inr (.inr ⟨_, _, _, hp, htasks, rfl, .inl rfl⟩)
  | finish hp _ hticket hfinish htasks =>
    obtain ⟨-, rfl⟩ := Task.finish_eq_ok_of_ticket hticket hfinish
    exact .inr (.inr ⟨_, _, _, hp, htasks, rfl, .inl rfl⟩)
  | cancel hp hphase hticket hcancel htasks =>
    have hfinish := Task.cancel_suspended_eq_ok hphase hcancel
    obtain ⟨-, rfl⟩ := Task.finish_eq_ok_of_ticket hticket hfinish
    exact .inr (.inr ⟨_, _, _, hp, htasks, rfl, .inl rfl⟩)
  | drop hp hphase hcancel htasks =>
    obtain ⟨rfl, -⟩ := Task.cancel_unstarted_eq_ok hphase hcancel
    exact .inr (.inr ⟨_, _, _, hp, htasks, rfl, .inl rfl⟩)

theorem Move.length_monitors_le (h : Move s s' new) :
    s.fleet.monitors.length ≤ s'.fleet.monitors.length := by
  obtain ⟨-, hfleet | ⟨name, settings, m, -, hfleet⟩⟩ | ⟨hook, -, hhook⟩ := h.fleet_cases
  · exact Nat.le_of_eq (by rw [hfleet])
  · rw [hfleet, Fleet.add, List.length_append]
    exact Nat.le_add_right _ _
  · exact Nat.le_of_eq (Fleet.length_of_apply hhook).1.symm

theorem Reaches.length_monitors_le (h : Reaches s events s') :
    s.fleet.monitors.length ≤ s'.fleet.monitors.length := by
  induction h with
  | refl => exact Nat.le_refl _
  | tail _ hmove ih => exact Nat.le_trans ih hmove.length_monitors_le

theorem Move.length_tickets_le (h : Move s s' new) :
    s.fleet.tickets.length ≤ s'.fleet.tickets.length := by
  obtain ⟨-, hfleet | ⟨name, settings, m, -, hfleet⟩⟩ | ⟨hook, -, hhook⟩ := h.fleet_cases
  · exact Nat.le_of_eq (by rw [hfleet])
  · exact Nat.le_of_eq (by rw [hfleet, Fleet.add])
  · exact (Fleet.length_of_apply hhook).2

/-- Nobody is given a free ticket: the tickets of tasks are those that they started. -/
theorem Move.free (h : Move s s' new) {ticket : Nat} (hfree : s.Free ticket) : s'.Free ticket := by
  refine ⟨Nat.lt_of_lt_of_le hfree.lt_length h.length_tickets_le, fun q hq => ?_⟩
  obtain htasks | ⟨monitor, c, -, htasks⟩ | ⟨task, p, t, hp, htasks, -, hticket⟩ := h.tasks_cases
  · rw [htasks] at hq
    exact hfree.ne_ticket q hq
  · rw [htasks] at hq
    obtain hq | hq := List.mem_append.mp hq
    · exact hfree.ne_ticket q hq
    · rw [List.mem_singleton] at hq
      subst q
      exact Option.some_ne_none ticket |>.symm
  · obtain ⟨other, hother⟩ := List.mem_iff_getElem?.mp hq
    rw [htasks] at hother
    obtain ⟨-, rfl⟩ | ⟨-, hq⟩ := getElem?_setTask_cases hp hother
    · obtain hsame | ⟨hnext, -⟩ := hticket
      · rw [hsame]
        exact hfree.ne_ticket p (List.mem_of_getElem? hp)
      · rw [hnext]
        intro heq
        exact absurd hfree.lt_length (Option.some.inj heq ▸ Nat.lt_irrefl _)
    · exact hfree.ne_ticket q (List.mem_of_getElem? hq)

theorem Reaches.free (h : Reaches s events s') {ticket : Nat} (hfree : s.Free ticket) :
    s'.Free ticket := by
  induction h with
  | refl => exact hfree
  | tail _ hmove ih => exact hmove.free ih

end SendMeter.Session
