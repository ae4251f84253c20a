import SendMeter.Proofs.Scalar.Counting
import SendMeter.Proofs.Session.Life
import SendMeter.Proofs.Session.Runs

namespace SendMeter.Session

/-- A task ends its send: the outcome is recorded on its own monitor, with the time since it was
begun. -/
def EndsSend (s s' : Session) (events : List Event) (task : Nat) (p : PendingCall)
    (success : Bool) : Prop :=
  ∃ ticket begin, p.task.block.ticket = some ticket ∧
    eventsOf task events = [.begun task (.start p.task.block.monitor begin)] ∧
    RecordsOutcome s s' p.task.block.monitor ticket success
      (Scalar.maximum Scalar.zero (s.clock - begin))

/-- What an event does to the fleet. -/
def Effect (s s' : Session) (events : List Event) : Event → Prop
  | .hook h => s.fleet.apply h = .ok s'.fleet
  | .begun task _ =>
    ∃ p, s.tasks[task]? = some p ∧ StartsSend s s' p.task.block.monitor
  | .finished task ending _ =>
    ∃ p, s.tasks[task]? = some p ∧ ending = p.call.ending ∧
      EndsSend s s' events task p ending.succeeds
  | .cancelled task (some _) =>
    ∃ p, s.tasks[task]? = some p ∧ EndsSend s s' events task p false
  | .cancelled _ none => s'.fleet = s.fleet

/-- No hook of a task is refused: it can start its send, and end it. -/
structure Unhindered (s : Session) (t : Task) : Prop where
  resume : t.phase = .unstarted → (t.resume s.fleet s.clock).isOk
  finish : t.phase = .running → ∀ success, (t.finish success s.fleet s.clock).isOk
  cancel : t.phase = .suspended → (t.cancel s.fleet s.clock).isOk

variable {s s' : Session} {events new : List Event}

namespace Lives

variable {task ticket : Nat} {p : PendingCall} {success : Bool}

theorem endsSend (h : Lives s events) (hp : s.tasks[task]? = some p)
    (hphase : p.task.phase = .suspended ∨ p.task.phase = .running)
    (hticket : p.task.block.ticket = some ticket)
    (hcomplete : s.fleet.complete p.task.block.monitor ticket success none s.clock =
      .ok s'.fleet) : EndsSend s s' events task p success := by
  obtain ⟨own, t, hown, ht, hverdict, hevents⟩ := (h.life task p hp).exists_started hphase
  rw [hticket] at hown
  cases hown
  have hopen : t.completed = false := by
    rw [h.accounts.balanced.completed_eq ticket t ht, hverdict]
    rfl
  exact ⟨ticket, t.startedAt, hticket, hevents, recordsOutcome_of_complete ht hopen hcomplete⟩

theorem effect (h : Lives s events) {e : Event} (hmove : Move s s' [e]) :
    Effect s s' events e := by
  cases hmove with
  | start hstart _ => exact hstart
  | complete _ hcomplete _ => exact hcomplete
  | begin hp hphase hresume _ =>
    obtain ⟨hstart, -⟩ := Task.resume_unstarted_eq_ok hphase hresume
    exact ⟨_, hp, Fleet.apply_start_eq_ok (h := hstart)⟩
  | finish hp hphase hticket hfinish _ =>
    obtain ⟨hcomplete, -⟩ := Task.finish_eq_ok_of_ticket hticket hfinish
    exact ⟨_, hp, rfl, h.endsSend hp (.inr hphase) hticket hcomplete⟩
  | cancel hp hphase hticket hcancel _ =>
    have hfinish := Task.cancel_suspended_eq_ok hphase hcancel
    obtain ⟨hcomplete, -⟩ := Task.finish_eq_ok_of_ticket hticket hfinish
    exact ⟨_, hp, h.endsSend hp (.inl hphase) hticket hcomplete⟩
  | drop _ hphase hcancel _ => exact (Task.cancel_unstarted_eq_ok hphase hcancel).2

/-- The tickets of tasks are completed without a duration, so that no completion is refused. -/
theorem unhindered (h : Lives s events) (hp : s.tasks[task]? = some p) {n : Nat}
    (hready : s.fleet.Ready n) (hn : n + 1 < 2 ^ 1023) : Unhindered s p.task := by
  have hmonitor := h.known.monitor_lt p (List.mem_of_getElem? hp)
  have hfinish (hphase : p.task.phase = .suspended ∨ p.task.phase = .running) (success : Bool) :
      (p.task.finish success s.fleet s.clock).isOk := by
    obtain ⟨ticket, t, hticket, -⟩ := (h.life task p hp).exists_started hphase
    refine Task.isOk_finish hticket ?_
    exact (hready.isOk_complete_iff Binary64.countsBelow hn hmonitor (h.ticket_lt hp hticket)
      success none s.clock).mpr fun _ hnone => by cases hnone
  refine ⟨fun hphase => ?_, fun hphase success => ?_, fun hphase => ?_⟩
  · exact Task.isOk_resume hphase
      (hready.isOk_start Binary64.countsBelow hn hmonitor s.clock)
  · exact hfinish (.inr hphase) success
  · exact Task.isOk_cancel hphase (hfinish (.inl hphase) false)

end Lives

/-- After every chain of moves, so at every point of every run, the counts of each monitor are those
of the hooks that were called, and each task is at a point of its life: it has called no hook before
it is begun, then it has started one send on its own monitor, and its ticket is settled by its own
end alone, there and with success exactly if its code returned. The event that ends it records this
one outcome, with the time since it was begun, or nothing if it was not begun; the events of others
leave its ticket as it is. In a run shorter than the limit of the float counts, none of its hooks is
refused. -/
theorem tasks_recorded_exactly_once (clock : Float) (source : SettingsSource Float)
    (stamp : Json) :
    (∀ steps, ∃ events, Reaches (start clock source stamp) events
      ((start clock source stamp).run steps).1) ∧
    ∀ (events : List Event) (s : Session), Reaches (start clock source stamp) events s →
      s.fleet.Balanced (hooksOf events) ∧
      (∀ (task : Nat) (p : PendingCall), s.tasks[task]? = some p →
        Life s events task p ∧
        ((hooksOf events).length + 1 < 2 ^ 1023 → Unhindered s p.task)) ∧
      (∀ (s' : Session) (e : Event), Move s s' [e] → Effect s s' events e) ∧
      (∀ (s' : Session) (new : List Event) (task ticket : Nat) (p : PendingCall), Move s s' new →
        eventsOf task new = [] → s.tasks[task]? = some p → p.task.block.ticket = some ticket →
        s'.fleet.tickets[ticket]? = s.fleet.tickets[ticket]?) := by
  refine ⟨reaches_run clock source stamp, fun events s hreaches => ?_⟩
  have hlives := hreaches.lives
  refine ⟨hlives.accounts.balanced, fun task p hp => ?_, fun s' e hmove => hlives.effect hmove, ?_⟩
  · exact ⟨hlives.life task p hp, hlives.unhindered hp hreaches.ready_of_start⟩
  · intro s' new task ticket p hmove hnew hp hticket
    exact (hlives.kept_of_move hmove hp hnew hticket).1

/-- A send on the first monitor that waits for something. -/
def waiting (ending : Ending) : Call Step :=
  { path := .wrappedTask, monitor := "mail", channel := "mail", advance := 1, body := [], ending }

/-- Three tasks on one monitor: the first is begun, and returns after the second was begun; the
second is closed while it is suspended, and the third before it is begun. -/
def interleaving : List Step :=
  [.newMonitor "mail" none none, .newTask "a" (waiting (.returns .null)),
    .newTask "b" (waiting (.raises ⟨"ValueError", "b"⟩)), .newTask "c" (waiting (.returns .null)),
    .stepTask "a", .advance 1, .stepTask "b", .finishTask "a", .closeTask "b", .closeTask "c"]

def empty : Session := start 0 (fun _ => .ok Settings.standard) .null

/-- The tasks of a session, with what their calls return. -/
def tasksAndEndings (s : Session) : List (Task × Bool) :=
  s.tasks.map fun p => (p.task, p.call.ending.succeeds)

private theorem getElem?_of_tasksAndEndings {s : Session} {task : Nat} {t : Task} {succeeds : Bool}
    (h : (tasksAndEndings s)[task]? = some (t, succeeds)) :
    ∃ p, s.tasks[task]? = some p ∧ p.task = t ∧ p.call.ending.succeeds = succeeds := by
  rw [tasksAndEndings, List.getElem?_map, Option.map_eq_some_iff] at h
  obtain ⟨p, hp, heq⟩ := h
  cases heq
  exact ⟨p, hp, rfl, rfl⟩

theorem tasks_recorded_exactly_once_interleaving :
    ∃ events, Reaches empty events (empty.run interleaving).1 ∧
      verdict? 0 (hooksOf events) = some (0, true) ∧
      verdict? 1 (hooksOf events) = some (0, false) ∧
      eventsOf 2 events = [.cancelled 2 none] ∧
      startsOn 0 (hooksOf events) = 2 := by
  have htasks : tasksAndEndings (empty.run interleaving).1 =
      [(⟨⟨0, some 0⟩, .ended⟩, true), (⟨⟨0, some 1⟩, .ended⟩, false),
        (⟨⟨0, none⟩, .ended⟩, true)] := by
    decide +kernel
  have htickets : (empty.run interleaving).1.fleet.tickets.length = 2 := by decide +kernel
  have hcounted : ((empty.run interleaving).1.fleet.monitors.map fun m =>
      (m.sendCount, m.durations.average.count)) = [(2, 1)] := by
    decide +kernel
  obtain ⟨hruns, hreached⟩ :=
    tasks_recorded_exactly_once 0 (fun _ => .ok Settings.standard) .null
  obtain ⟨events, hreaches⟩ : ∃ events, Reaches empty events (empty.run interleaving).1 :=
    hruns interleaving
  refine ⟨events, hreaches, ?_⟩
  generalize (empty.run interleaving).1 = s at hreaches htasks htickets hcounted
  obtain ⟨hbalanced, hlife, -, -⟩ := hreached events s hreaches
  have hended (task : Nat) {t : Task} {succeeds : Bool}
      (h : (tasksAndEndings s)[task]? = some (t, succeeds)) (hphase : t.phase = .ended) :
      (∃ ticket success, t.block.ticket = some ticket ∧
        verdict? ticket (hooksOf events) = some (t.block.monitor, success) ∧
        (success = true → succeeds = true)) ∨
      (t.block.ticket = none ∧ eventsOf task events = [.cancelled task none]) := by
    obtain ⟨p, hp, rfl, rfl⟩ := getElem?_of_tasksAndEndings h
    exact (hlife task p hp).1.of_ended hphase
  rw [htasks] at hended
  obtain ⟨m, hmonitors, hcounted⟩ := List.map_eq_singleton_iff.mp hcounted
  obtain ⟨hsends, hsuccesses⟩ := Prod.mk.inj hcounted
  obtain ⟨hcounts, -⟩ := hbalanced.hasCounts 0 m (by rw [hmonitors]; rfl)
  have hstarts := hcounts.total_eq.symm.trans hsends
  have hone := hcounts.durations_eq.symm.trans hsuccesses
  obtain ⟨ticket, first, hticket, hfirst, -⟩ :=
    (hended 0 rfl rfl).resolve_right fun ⟨hnone, _⟩ => by cases hnone
  cases hticket
  obtain ⟨ticket, second, hticket, hsecond, hfails⟩ :=
    (hended 1 rfl rfl).resolve_right fun ⟨hnone, _⟩ => by cases hnone
  cases hticket
  obtain ⟨-, hdropped⟩ :=
    (hended 2 rfl rfl).resolve_left fun ⟨_, _, hticket, _⟩ => by cases hticket
  have hfalse : second = false := by simpa using hfails
  subst second
  have htrue : first = true := by
    rw [htickets, verdicts, List.range_succ, List.range_one] at hone
    simpa [List.countP_cons, hfirst, hsecond] using hone
  subst first
  exact ⟨hfirst, hsecond, hdropped, hstarts⟩

end SendMeter.Session
