import SendMeter.Proofs.Registry.Steps
import SendMeter.Proofs.Session.Moves

namespace SendMeter.Session

theorem mem_give {β : Type} {names : List (String × β)} {name : String} {thing : β}
    {entry : String × β} (h : entry ∈ give names name thing) :
    entry ∈ names ∨ entry.2 = thing := by
  unfold give at h
  obtain rfl | h := List.mem_cons.mp h
  · exact .inr rfl
  · exact .inl (List.mem_filter.mp h).1

/-- The monitors and tickets of the tasks are among those of the session. -/
structure TasksKnown (s : Session) : Prop where
  monitor_lt : ∀ p ∈ s.tasks, p.task.block.monitor < s.fleet.monitors.length
  ticket_lt : ∀ p ∈ s.tasks, ∀ ticket, p.task.block.ticket = some ticket →
    ticket < s.fleet.tickets.length

/-- The names of a session lead to its monitors, and to tickets that are no task's. -/
structure Orderly (s : Session) : Prop where
  tasks : s.TasksKnown
  handles : ∀ entry ∈ s.handles, entry.2 < s.fleet.monitors.length
  channels : ∀ entry ∈ s.registry.channels, entry.2 < s.fleet.monitors.length
  tickets : ∀ entry ∈ s.tickets, s.Free entry.2
  blocks : ∀ entry ∈ s.blocks, ∀ ticket, entry.2.ticket = some ticket → s.Free ticket

theorem orderly_start (clock : Float) (source : SettingsSource Float) (stamp : Json) :
    (start clock source stamp).Orderly := by
  refine ⟨⟨?_, ?_⟩, ?_, ?_, ?_, ?_⟩ <;> intro entry hentry <;> cases hentry

/-- A session that another one leads to by moves that make these events, without a change to the
tasks that are being run. -/
structure LeadsBy (s : Session) (events : List Event) (s' : Session) : Prop where
  orderly : s'.Orderly
  reaches : Reaches s events s'
  running : ∀ (task : Nat) (p : PendingCall), s.tasks[task]? = some p → p.task.phase = .running →
    s'.tasks[task]? = some p

def Leads (s s' : Session) : Prop :=
  ∃ events, LeadsBy s events s'

variable {s s' s'' : Session} {events more new : List Event}

namespace LeadsBy

theorem refl (hs : s.Orderly) : LeadsBy s [] s :=
  ⟨hs, .refl, fun _ _ hp _ => hp⟩

theorem trans (h : LeadsBy s events s') (h' : LeadsBy s' more s'') :
    LeadsBy s (events ++ more) s'' := by
  refine ⟨h'.orderly, h.reaches.trans h'.reaches, fun task p hp hphase => ?_⟩
  exact h'.running task p (h.running task p hp hphase) hphase

end LeadsBy

namespace Leads

theorem refl (hs : s.Orderly) : Leads s s :=
  ⟨[], .refl hs⟩

theorem trans (h : Leads s s') (h' : Leads s' s'') : Leads s s'' := by
  obtain ⟨events, hevents⟩ := h
  obtain ⟨more, hmore⟩ := h'
  exact ⟨events ++ more, hevents.trans hmore⟩

theorem orderly (h : Leads s s') : s'.Orderly := by
  obtain ⟨events, hevents⟩ := h
  exact hevents.orderly

theorem reaches (h : Leads s s') : ∃ events, Reaches s events s' := by
  obtain ⟨events, hevents⟩ := h
  exact ⟨events, hevents.reaches⟩

end Leads

section Moves

theorem Move.tasksKnown (h : Move s s' new) (hs : s.TasksKnown) : s'.TasksKnown := by
  have hmonitors := h.length_monitors_le
  have htickets := h.length_tickets_le
  have hmonitor (p : PendingCall) (hp : p ∈ s.tasks) :
      p.task.block.monitor < s'.fleet.monitors.length :=
    Nat.lt_of_lt_of_le (hs.monitor_lt p hp) hmonitors
  have hticket (p : PendingCall) (hp : p ∈ s.tasks) (ticket : Nat)
      (hsome : p.task.block.ticket = some ticket) : ticket < s'.fleet.tickets.length :=
    Nat.lt_of_lt_of_le (hs.ticket_lt p hp ticket hsome) htickets
  suffices hall : ∀ q ∈ s'.tasks, q.task.block.monitor < s'.fleet.monitors.length ∧
      ∀ ticket, q.task.block.ticket = some ticket → ticket < s'.fleet.tickets.length from
    ⟨fun q hq => (hall q hq).1, fun q hq => (hall q hq).2⟩
  intro q hq
  obtain htasks | ⟨monitor, c, hlt, htasks⟩ | ⟨task, p, t, hp, htasks, hsame, hgiven⟩ :=
    h.tasks_cases
  · rw [htasks] at hq
    exact ⟨hmonitor q hq, hticket q hq⟩
  · rw [htasks] at hq
    obtain hq | hq := List.mem_append.mp hq
    · exact ⟨hmonitor q hq, hticket q hq⟩
    · rw [List.mem_singleton] at hq
      subst q
      exact ⟨Nat.lt_of_lt_of_le hlt hmonitors, fun ticket hsome => by cases hsome⟩
  · obtain ⟨other, hother⟩ := List.mem_iff_getElem?.mp hq
    rw [htasks] at hother
    obtain ⟨-, rfl⟩ | ⟨-, hq⟩ := getElem?_setTask_cases hp hother
    · have hmem := List.mem_of_getElem? hp
      refine ⟨hsame ▸ hmonitor p hmem, fun ticket hsome => ?_⟩
      obtain hkept | ⟨hnext, hlt⟩ := hgiven
      · exact hticket p hmem ticket (hkept ▸ hsome)
      · rw [hnext] at hsome
        exact Option.some.inj hsome ▸ hlt
    · exact ⟨hmonitor q (List.mem_of_getElem? hq), hticket q (List.mem_of_getElem? hq)⟩

/-- After a move, a session is orderly if the names that it did not have before are. -/
theorem Orderly.of_move (hs : s.Orderly) (hmove : Move s s' new)
    (hhandles : ∀ entry ∈ s'.handles,
      entry ∈ s.handles ∨ entry.2 < s'.fleet.monitors.length)
    (hchannels : ∀ entry ∈ s'.registry.channels,
      entry ∈ s.registry.channels ∨ entry.2 < s'.fleet.monitors.length)
    (htickets : ∀ entry ∈ s'.tickets, entry ∈ s.tickets ∨ s'.Free entry.2)
    (hblocks : ∀ entry ∈ s'.blocks,
      entry ∈ s.blocks ∨ ∀ ticket, entry.2.ticket = some ticket → s'.Free ticket) :
    s'.Orderly := by
  have hlength := hmove.length_monitors_le
  refine ⟨hmove.tasksKnown hs.tasks, ?_, ?_, ?_, ?_⟩
  · intro entry hentry
    obtain hold | hnew := hhandles entry hentry
    · exact Nat.lt_of_lt_of_le (hs.handles entry hold) hlength
    · exact hnew
  · intro entry hentry
    obtain hold | hnew := hchannels entry hentry
    · exact Nat.lt_of_lt_of_le (hs.channels entry hold) hlength
    · exact hnew
  · intro entry hentry
    obtain hold | hnew := htickets entry hentry
    · exact hmove.free (hs.tickets entry hold)
    · exact hnew
  · intro entry hentry ticket hticket
    obtain hold | hnew := hblocks entry hentry
    · exact hmove.free (hs.blocks entry hold ticket hticket)
    · exact hnew ticket hticket

/-- A move that gives no names. -/
theorem Orderly.of_move_same (hs : s.Orderly) (hmove : Move s s' new)
    (hhandles : s'.handles = s.handles) (hchannels : s'.registry.channels = s.registry.channels)
    (htickets : s'.tickets = s.tickets) (hblocks : s'.blocks = s.blocks) : s'.Orderly := by
  refine hs.of_move hmove ?_ ?_ ?_ ?_
  · exact fun entry hentry => .inl (hhandles ▸ hentry)
  · exact fun entry hentry => .inl (hchannels ▸ hentry)
  · exact fun entry hentry => .inl (htickets ▸ hentry)
  · exact fun entry hentry => .inl (hblocks ▸ hentry)

/-- A move that changes no task. -/
theorem LeadsBy.of_tasks (hs' : s'.Orderly) (hmove : Move s s' new) (htasks : s'.tasks = s.tasks) :
    LeadsBy s new s' :=
  ⟨hs', hmove.reaches, fun _ _ hp _ => htasks ▸ hp⟩

/-- A move of one task that was not being run at first. -/
theorem LeadsBy.setTask (h : LeadsBy s events s') (hs'' : s''.Orderly) (hmove : Move s' s'' new)
    {task : Nat} {p : PendingCall} {t : Task} (hp : s.tasks[task]? = some p)
    (hphase : p.task.phase ≠ .running) (htasks : s''.tasks = (s'.setTask task t).tasks) :
    LeadsBy s (events ++ new) s'' := by
  refine ⟨hs'', .tail h.reaches hmove, fun other q hq hrunning => ?_⟩
  rw [htasks]
  by_cases heq : task = other
  · subst other
    rw [hp] at hq
    cases hq
    exact absurd hrunning hphase
  · rw [getElem?_setTask_of_ne heq]
    exact h.running other q hq hrunning

/-- The ticket that a start gives out is free, if it is given to no task. -/
theorem TasksKnown.free_nextTicket (hs : s.TasksKnown) {monitor : Nat}
    (hstart : s.fleet.start monitor s.clock = .ok s'.fleet) (htasks : s'.tasks = s.tasks) :
    s'.Free s.fleet.nextTicket := by
  obtain ⟨m, started, t, -, -, hfleet⟩ := Fleet.apply_start_eq_ok (h := hstart)
  constructor
  · rw [hfleet, List.length_append]
    exact Nat.lt_succ_self _
  · intro p hp hticket
    rw [htasks] at hp
    exact Nat.lt_irrefl _ (hs.ticket_lt p hp _ hticket)

end Moves

end SendMeter.Session
