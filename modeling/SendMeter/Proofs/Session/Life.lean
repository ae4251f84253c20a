import SendMeter.Proofs.Session.Accounts

namespace SendMeter.Session

/-- The point of its life at which a task is after some events. -/
inductive Life (s : Session) (events : List Event) (task : Nat) (p : PendingCall) : Prop where
  | unstarted (hphase : p.task.phase = .unstarted) (hticket : p.task.block.ticket = none)
      (hevents : eventsOf task events = [])
  /-- It has started its send, and its ticket has not been completed by anybody. -/
  | started {ticket : Nat} {t : Ticket Float} (hphase : p.task.phase = .suspended ∨
        p.task.phase = .running)
      (hticket : p.task.block.ticket = some ticket)
      (ht : s.fleet.tickets[ticket]? = some t)
      (hverdict : verdict? ticket (hooksOf events) = none)
      (hevents : eventsOf task events =
        [.begun task (.start p.task.block.monitor t.startedAt)])
  /-- Its code came to an end, with the outcome of its call. -/
  | finished {ticket : Nat} {begin finish : Float} (hphase : p.task.phase = .ended)
      (hticket : p.task.block.ticket = some ticket)
      (hverdict : verdict? ticket (hooksOf events) =
        some (p.task.block.monitor, p.call.ending.succeeds))
      (hevents : eventsOf task events =
        [.begun task (.start p.task.block.monitor begin),
          .finished task p.call.ending
            (.complete p.task.block.monitor ticket p.call.ending.succeeds none finish)])
  /-- It was ended from outside while it was suspended. -/
  | cancelled {ticket : Nat} {begin finish : Float} (hphase : p.task.phase = .ended)
      (hticket : p.task.block.ticket = some ticket)
      (hverdict : verdict? ticket (hooksOf events) = some (p.task.block.monitor, false))
      (hevents : eventsOf task events =
        [.begun task (.start p.task.block.monitor begin),
          .cancelled task (some (.complete p.task.block.monitor ticket false none finish))])
  /-- It was ended before it was resumed, and has never called a hook. -/
  | dropped (hphase : p.task.phase = .ended) (hticket : p.task.block.ticket = none)
      (hevents : eventsOf task events = [.cancelled task none])

variable {s s' : Session} {events new : List Event}

theorem eventsOf_eq_nil {task : Nat} (h : ∀ e ∈ events, e.task? ≠ some task) :
    eventsOf task events = [] := by
  unfold eventsOf
  rw [List.filter_eq_nil_iff]
  intro e he htask
  exact h e he (of_decide_eq_true htask)

/-- The ticket of a task is as it was, and so is what the hooks say of it. -/
def Kept (s s' : Session) (events new : List Event) (ticket : Nat) : Prop :=
  s'.fleet.tickets[ticket]? = s.fleet.tickets[ticket]? ∧
    verdict? ticket (hooksOf (events ++ new)) = verdict? ticket (hooksOf events)

theorem Life.of_kept {task : Nat} {p : PendingCall} (h : Life s events task p)
    (hnew : eventsOf task new = [])
    (hkept : ∀ ticket, p.task.block.ticket = some ticket → Kept s s' events new ticket) :
    Life s' (events ++ new) task p := by
  have hevents : eventsOf task (events ++ new) = eventsOf task events := by
    rw [eventsOf_append, hnew, List.append_nil]
  cases h with
  | unstarted hphase hticket hold => exact .unstarted hphase hticket (hevents.trans hold)
  | started hphase hticket ht hverdict hold =>
    obtain ⟨hsame, hverdict'⟩ := hkept _ hticket
    exact .started hphase hticket (hsame.trans ht) (hverdict'.trans hverdict) (hevents.trans hold)
  | finished hphase hticket hverdict hold =>
    exact .finished hphase hticket ((hkept _ hticket).2.trans hverdict) (hevents.trans hold)
  | cancelled hphase hticket hverdict hold =>
    exact .cancelled hphase hticket ((hkept _ hticket).2.trans hverdict) (hevents.trans hold)
  | dropped hphase hticket hold => exact .dropped hphase hticket (hevents.trans hold)

/-- A move leaves the tickets alone that no hook of it completes. -/
theorem Move.kept (hmove : Move s s' new) {ticket : Nat} (hlt : ticket < s.fleet.tickets.length)
    (hsettles : ∀ hook ∈ hooksOf new, hook.settles? ticket = none) :
    Kept s s' events new ticket := by
  unfold Kept
  rw [hooksOf_append]
  obtain ⟨hnew, hfleet | ⟨name, settings, m, -, hfleet⟩⟩ | ⟨hook, hnew, hhook⟩ :=
    hmove.fleet_cases
  · rw [hnew, List.append_nil, hfleet]
    exact ⟨rfl, rfl⟩
  · rw [hnew, List.append_nil, hfleet]
    exact ⟨rfl, rfl⟩
  · rw [hnew] at hsettles ⊢
    have hnone := hsettles hook (List.mem_singleton_self hook)
    rw [verdict?_concat, hnone, Option.or_none]
    exact ⟨Fleet.getElem?_tickets_of_apply hhook hlt hnone, rfl⟩

/-- All tasks of a session are at some point of their lives, no two of them have one ticket, and the
accounts are balanced. -/
structure Lives (s : Session) (events : List Event) : Prop where
  accounts : Accounted events s.fleet
  known : s.TasksKnown
  life : ∀ (task : Nat) (p : PendingCall), s.tasks[task]? = some p → Life s events task p
  injective : ∀ (task other : Nat) (p q : PendingCall) (ticket : Nat),
    s.tasks[task]? = some p → s.tasks[other]? = some q →
    p.task.block.ticket = some ticket → q.task.block.ticket = some ticket → task = other
  task_lt : ∀ e ∈ events, ∀ task, e.task? = some task → task < s.tasks.length

theorem lives_start (clock : Float) (source : SettingsSource Float) (stamp : Json) :
    Lives (start clock source stamp) [] := by
  refine ⟨accounted_start clock source stamp, (orderly_start clock source stamp).tasks, ?_, ?_, ?_⟩
  · intro task p hp
    cases hp
  · intro task other p q ticket hp
    cases hp
  · intro e he
    cases he

namespace Lives

theorem ticket_lt (h : Lives s events) {task ticket : Nat} {p : PendingCall}
    (hp : s.tasks[task]? = some p) (hticket : p.task.block.ticket = some ticket) :
    ticket < s.fleet.tickets.length :=
  h.known.ticket_lt p (List.mem_of_getElem? hp) ticket hticket

/-- No move of anything else completes the ticket of a task. -/
theorem kept_of_move (h : Lives s events) (hmove : Move s s' new) {task : Nat} {p : PendingCall}
    (hp : s.tasks[task]? = some p) (hnew : eventsOf task new = []) {ticket : Nat}
    (hticket : p.task.block.ticket = some ticket) : Kept s s' events new ticket := by
  have hother {other : Nat} {q : PendingCall} {settled : Nat} (hq : s.tasks[other]? = some q)
      (hsettled : q.task.block.ticket = some settled) (hne : other ≠ task) : settled ≠ ticket := by
    rintro rfl
    exact hne (h.injective other task q p settled hq hp hsettled hticket)
  have hne {e : Event} {other : Nat} (htask : e.task? = some other)
      (hnone : eventsOf task [e] = []) : other ≠ task := by
    rintro rfl
    simp [eventsOf, htask] at hnone
  refine hmove.kept (h.ticket_lt hp hticket) fun hook hhook => ?_
  cases hmove with
  | idle => cases hhook
  | monitor => cases hhook
  | task => cases hhook
  | suspend => cases hhook
  | resume => cases hhook
  | drop => cases hhook
  | start =>
    rw [List.mem_singleton.mp hhook]
    rfl
  | begin =>
    rw [List.mem_singleton.mp hhook]
    rfl
  | complete hfree _ _ =>
    rw [List.mem_singleton.mp hhook, Hook.settles?, if_neg]
    rintro rfl
    exact hfree.ne_ticket p (List.mem_of_getElem? hp) hticket
  | finish hq _ hsettled _ _ =>
    rw [List.mem_singleton.mp hhook, Hook.settles?, if_neg (hother hq hsettled (hne rfl hnew))]
  | cancel hq _ hsettled _ _ =>
    rw [List.mem_singleton.mp hhook, Hook.settles?, if_neg (hother hq hsettled (hne rfl hnew))]

theorem life_of_move (h : Lives s events) (hmove : Move s s' new) {task : Nat} {p : PendingCall}
    (hp : s.tasks[task]? = some p) (hnew : eventsOf task new = []) :
    Life s' (events ++ new) task p :=
  (h.life task p hp).of_kept hnew fun _ hticket => h.kept_of_move hmove hp hnew hticket

/-- A move of no task. -/
theorem of_tasks (h : Lives s events) (hmove : Move s s' new) (htasks : s'.tasks = s.tasks)
    (hnew : ∀ e ∈ new, e.task? = none) : Lives s' (events ++ new) := by
  refine ⟨h.accounts.move hmove, hmove.tasksKnown h.known, fun task p hp => ?_, ?_,
    fun e he task htask => ?_⟩
  · rw [htasks] at hp
    refine h.life_of_move hmove hp (eventsOf_eq_nil fun e he htask => ?_)
    rw [hnew e he] at htask
    cases htask
  · rw [htasks]
    exact h.injective
  · rw [htasks]
    obtain hold | he := List.mem_append.mp he
    · exact h.task_lt e hold task htask
    · rw [hnew e he] at htask
      cases htask

/-- Two tasks have no ticket in common, if one of them keeps its ticket or is given the next one. -/
theorem eq_of_ticket_setTask (h : Lives s events) {task i j ticket : Nat} {p q r : PendingCall}
    {t : Task} (hp : s.tasks[task]? = some p)
    (hticket : t.block.ticket = p.task.block.ticket ∨ t.block.ticket = some s.fleet.nextTicket)
    (hq : (s.setTask task t).tasks[i]? = some q) (hr : (s.setTask task t).tasks[j]? = some r)
    (hqt : q.task.block.ticket = some ticket) (hrt : r.task.block.ticket = some ticket) :
    i = j := by
  have hother {other : Nat} {u : PendingCall} (hu : s.tasks[other]? = some u)
      (hut : u.task.block.ticket = some ticket) (hmine : t.block.ticket = some ticket) :
      task = other := by
    obtain hsame | hnext := hticket
    · rw [hsame] at hmine
      exact h.injective task other p u ticket hp hu hmine hut
    · rw [hnext] at hmine
      have hlt := h.ticket_lt hu hut
      rw [← Option.some.inj hmine] at hlt
      exact (Nat.lt_irrefl _ hlt).elim
  obtain ⟨rfl, rfl⟩ | ⟨-, hq⟩ := getElem?_setTask_cases hp hq
  · obtain ⟨rfl, -⟩ | ⟨-, hr⟩ := getElem?_setTask_cases hp hr
    · rfl
    · exact hother hr hrt hqt
  · obtain ⟨rfl, rfl⟩ | ⟨-, hr⟩ := getElem?_setTask_cases hp hr
    · exact (hother hq hqt hrt).symm
    · exact h.injective i j q r ticket hq hr hqt hrt

/-- A move of one task, which keeps its ticket or is given the next one. -/
theorem of_setTask (h : Lives s events) (hmove : Move s s' new) {task : Nat} {p : PendingCall}
    {t : Task} (hp : s.tasks[task]? = some p) (htasks : s'.tasks = (s.setTask task t).tasks)
    (hnew : ∀ e ∈ new, e.task? = some task)
    (hlife : Life s' (events ++ new) task { p with task := t })
    (hticket : t.block.ticket = p.task.block.ticket ∨
      t.block.ticket = some s.fleet.nextTicket) : Lives s' (events ++ new) := by
  refine ⟨h.accounts.move hmove, hmove.tasksKnown h.known, ?_, ?_, ?_⟩
  · intro other q hq
    rw [htasks] at hq
    obtain ⟨rfl, rfl⟩ | ⟨hne, hq⟩ := getElem?_setTask_cases hp hq
    · exact hlife
    · refine h.life_of_move hmove hq (eventsOf_eq_nil fun e he hother => hne ?_)
      rw [hnew e he] at hother
      exact Option.some.inj hother
  · intro i j q r ticket hq hr hqt hrt
    rw [htasks] at hq hr
    exact h.eq_of_ticket_setTask hp hticket hq hr hqt hrt
  · intro e he other hother
    have hlength : s'.tasks.length = s.tasks.length := by
      rw [htasks, setTask, List.length_modify]
    rw [hlength]
    obtain hold | he := List.mem_append.mp he
    · exact h.task_lt e hold other hother
    · rw [hnew e he] at hother
      rw [← Option.some.inj hother]
      exact (List.getElem?_eq_some_iff.mp hp).1

/-- A new task has no events. -/
theorem of_newTask (h : Lives s events) {monitor : Nat} {c : Call Step}
    (hmove : Move s s' []) (htasks : s'.tasks = s.tasks ++ [⟨.around monitor, c⟩]) :
    Lives s' events := by
  have haccounts := h.accounts.move hmove
  rw [List.append_nil] at haccounts
  have hcases {task : Nat} {p : PendingCall} (hp : s'.tasks[task]? = some p) :
      s.tasks[task]? = some p ∨ (task = s.tasks.length ∧ p = ⟨.around monitor, c⟩) := by
    rw [htasks] at hp
    by_cases hold : task < s.tasks.length
    · rw [List.getElem?_append_left hold] at hp
      exact .inl hp
    · rw [List.getElem?_append_right (Nat.le_of_not_lt hold), List.getElem?_singleton] at hp
      split at hp
      · cases hp
        exact .inr ⟨by omega, rfl⟩
      · cases hp
  refine ⟨haccounts, hmove.tasksKnown h.known, fun task p hp => ?_,
    fun i j q r ticket hq hr hqt hrt => ?_, ?_⟩
  · obtain hold | ⟨rfl, rfl⟩ := hcases hp
    · have hlife := h.life_of_move hmove hold rfl
      rwa [List.append_nil] at hlife
    · refine .unstarted rfl rfl (eventsOf_eq_nil fun e he htask => ?_)
      exact Nat.lt_irrefl _ (h.task_lt e he _ htask)
  · obtain hq | ⟨-, rfl⟩ := hcases hq
    · obtain hr | ⟨-, rfl⟩ := hcases hr
      · exact h.injective i j q r ticket hq hr hqt hrt
      · cases hrt
    · cases hqt
  · intro e he task htask
    rw [htasks, List.length_append]
    exact Nat.lt_add_right 1 (h.task_lt e he task htask)

end Lives

section Task

variable {task : Nat} {p : PendingCall}

/-- What is known of a task that has been started and has not ended. -/
theorem Life.exists_started (h : Life s events task p)
    (hphase : p.task.phase = .suspended ∨ p.task.phase = .running) :
    ∃ ticket t, p.task.block.ticket = some ticket ∧ s.fleet.tickets[ticket]? = some t ∧
      verdict? ticket (hooksOf events) = none ∧
      eventsOf task events = [.begun task (.start p.task.block.monitor t.startedAt)] := by
  cases h with
  | started _ hticket ht hverdict hevents => exact ⟨_, _, hticket, ht, hverdict, hevents⟩
  | unstarted hphase' => simp [hphase'] at hphase
  | finished hphase' => simp [hphase'] at hphase
  | cancelled hphase' => simp [hphase'] at hphase
  | dropped hphase' => simp [hphase'] at hphase

theorem Life.of_unstarted (h : Life s events task p) (hphase : p.task.phase = .unstarted) :
    p.task.block.ticket = none ∧ eventsOf task events = [] := by
  cases h with
  | unstarted _ hticket hevents => exact ⟨hticket, hevents⟩
  | started hphase' => simp [hphase] at hphase'
  | finished hphase' => simp [hphase] at hphase'
  | cancelled hphase' => simp [hphase] at hphase'
  | dropped hphase' => simp [hphase] at hphase'

/-- A task that has ended has settled its ticket, if it had one. -/
theorem Life.of_ended (h : Life s events task p) (hphase : p.task.phase = .ended) :
    (∃ ticket success, p.task.block.ticket = some ticket ∧
      verdict? ticket (hooksOf events) = some (p.task.block.monitor, success) ∧
      (success = true → p.call.ending.succeeds = true)) ∨
    (p.task.block.ticket = none ∧ eventsOf task events = [.cancelled task none]) := by
  cases h with
  | unstarted hphase' => simp [hphase] at hphase'
  | started hphase' => simp [hphase] at hphase'
  | finished _ hticket hverdict => exact .inl ⟨_, _, hticket, hverdict, fun hsucceeds => hsucceeds⟩
  | cancelled _ hticket hverdict =>
    exact .inl ⟨_, _, hticket, hverdict, fun hfalse => by cases hfalse⟩
  | dropped _ hticket hevents => exact .inr ⟨hticket, hevents⟩

theorem eventsOf_concat {e : Event} (he : e.task? = some task) :
    eventsOf task (events ++ [e]) = eventsOf task events ++ [e] := by
  rw [eventsOf_append]
  simp [eventsOf, he]

end Task

namespace Lives

variable {task ticket : Nat} {p : PendingCall} {t : Task}

theorem begin (h : Lives s events) (hp : s.tasks[task]? = some p)
    (hphase : p.task.phase = .unstarted)
    (hresume : p.task.resume s.fleet s.clock = .ok (t, s'.fleet))
    (htasks : s'.tasks = (s.setTask task t).tasks) :
    Lives s' (events ++ [.begun task (.start p.task.block.monitor s.clock)]) := by
  have hmove : Move s s' _ := .begin hp hphase hresume htasks
  obtain ⟨hstart, rfl⟩ := Task.resume_unstarted_eq_ok hphase hresume
  obtain ⟨m, started, given, -, hgiven, hfleet⟩ := Fleet.apply_start_eq_ok (h := hstart)
  obtain ⟨sends, -, -, rfl⟩ := Monitor.start_eq_ok hgiven
  obtain ⟨-, hnone⟩ := (h.life task p hp).of_unstarted hphase
  have hticket : s'.fleet.tickets[s.fleet.nextTicket]? = some ⟨m.name, s.clock, false⟩ := by
    rw [hfleet, Fleet.nextTicket, List.getElem?_concat_length]
  have hunsettled := h.accounts.balanced.verdict_eq_none s.fleet.nextTicket (Nat.le_refl _)
  refine h.of_setTask hmove hp htasks (fun e he => ?_) ?_ (.inr rfl)
  · rw [List.mem_singleton.mp he]
    rfl
  · refine .started (.inr rfl) rfl hticket ?_ ?_
    · rw [hooksOf_append]
      exact (verdict?_concat_start _ _ _ _).trans hunsettled
    · rw [eventsOf_concat rfl, hnone]
      rfl

/-- A task that is suspended, or goes on after that. -/
theorem pause (h : Lives s events) (hmove : Move s s' []) (hp : s.tasks[task]? = some p)
    (htasks : s'.tasks = (s.setTask task t).tasks)
    (hphase : p.task.phase = .suspended ∨ p.task.phase = .running)
    (hphase' : t.phase = .suspended ∨ t.phase = .running) (hblock : t.block = p.task.block) :
    Lives s' events := by
  have hkept := h.life_of_move hmove hp rfl
  have hpaused : Lives s' (events ++ []) := by
    refine h.of_setTask hmove hp htasks (fun e he => by cases he) ?_ (.inl (by rw [hblock]))
    obtain ⟨ticket, given, hticket, hgiven, hverdict, hevents⟩ := hkept.exists_started hphase
    rw [← hblock] at hticket hevents
    exact .started hphase' hticket hgiven hverdict hevents
  rwa [List.append_nil] at hpaused

/-- A task ends with an event that settles its ticket. -/
theorem settle (h : Lives s events) {e : Event} (hmove : Move s s' [e])
    (hp : s.tasks[task]? = some p)
    (hphase : p.task.phase = .suspended ∨ p.task.phase = .running)
    (hticket : p.task.block.ticket = some ticket)
    (htasks : s'.tasks = (s.setTask task { p.task with phase := .ended }).tasks)
    (he : e.task? = some task) {success : Bool}
    (hhook : hooksOf [e] = [.complete p.task.block.monitor ticket success none s.clock])
    (hlife : ∀ begin,
      verdict? ticket (hooksOf (events ++ [e])) = some (p.task.block.monitor, success) →
      eventsOf task (events ++ [e]) = [.begun task (.start p.task.block.monitor begin), e] →
      Life s' (events ++ [e]) task { p with task := { p.task with phase := .ended } }) :
    Lives s' (events ++ [e]) := by
  obtain ⟨own, given, hown, -, hverdict, hevents⟩ := (h.life task p hp).exists_started hphase
  rw [hticket] at hown
  cases hown
  refine h.of_setTask hmove hp htasks (fun e' he' => ?_) (hlife given.startedAt ?_ ?_) (.inl rfl)
  · rwa [List.mem_singleton.mp he']
  · rw [hooksOf_append, hhook]
    exact verdict?_concat_of_none hverdict _ _ _ _
  · rw [eventsOf_concat he, hevents]
    rfl

theorem finish (h : Lives s events) (hp : s.tasks[task]? = some p)
    (hphase : p.task.phase = .running) (hticket : p.task.block.ticket = some ticket)
    (hfinish : p.task.finish p.call.ending.succeeds s.fleet s.clock = .ok (t, s'.fleet))
    (htasks : s'.tasks = (s.setTask task t).tasks) :
    Lives s' (events ++ [.finished task p.call.ending
      (.complete p.task.block.monitor ticket p.call.ending.succeeds none s.clock)]) := by
  have hmove : Move s s' _ := .finish hp hphase hticket hfinish htasks
  obtain ⟨-, rfl⟩ := Task.finish_eq_ok_of_ticket hticket hfinish
  exact h.settle hmove hp (.inr hphase) hticket htasks rfl rfl fun begin hverdict hevents =>
    .finished rfl hticket hverdict hevents

theorem cancel (h : Lives s events) (hp : s.tasks[task]? = some p)
    (hphase : p.task.phase = .suspended) (hticket : p.task.block.ticket = some ticket)
    (hcancel : p.task.cancel s.fleet s.clock = .ok (t, s'.fleet))
    (htasks : s'.tasks = (s.setTask task t).tasks) :
    Lives s' (events ++ [.cancelled task
      (some (.complete p.task.block.monitor ticket false none s.clock))]) := by
  have hmove : Move s s' _ := .cancel hp hphase hticket hcancel htasks
  have hfinish := Task.cancel_suspended_eq_ok hphase hcancel
  obtain ⟨-, rfl⟩ := Task.finish_eq_ok_of_ticket hticket hfinish
  exact h.settle hmove hp (.inl hphase) hticket htasks rfl rfl fun begin hverdict hevents =>
    .cancelled rfl hticket hverdict hevents

theorem drop (h : Lives s events) (hp : s.tasks[task]? = some p)
    (hphase : p.task.phase = .unstarted)
    (hcancel : p.task.cancel s.fleet s.clock = .ok (t, s'.fleet))
    (htasks : s'.tasks = (s.setTask task t).tasks) :
    Lives s' (events ++ [.cancelled task none]) := by
  have hmove : Move s s' _ := .drop hp hphase hcancel htasks
  obtain ⟨rfl, -⟩ := Task.cancel_unstarted_eq_ok hphase hcancel
  obtain ⟨hticket, hnone⟩ := (h.life task p hp).of_unstarted hphase
  refine h.of_setTask hmove hp htasks (fun e he => ?_) ?_ (.inl rfl)
  · rw [List.mem_singleton.mp he]
    rfl
  · refine .dropped rfl hticket ?_
    rw [eventsOf_concat rfl, hnone]
    rfl

theorem move (h : Lives s events) (hmove : Move s s' new) : Lives s' (events ++ new) := by
  have hothers {hook : Hook Float} : ∀ e ∈ [Event.hook hook], e.task? = none := by
    intro e he
    rw [List.mem_singleton.mp he]
    rfl
  have hnone : ∀ e ∈ ([] : List Event), e.task? = none := fun e he => by cases he
  cases hmove with
  | idle hfleet htasks => exact h.of_tasks (.idle hfleet htasks) htasks hnone
  | monitor hcreate hfleet htasks =>
    exact h.of_tasks (.monitor hcreate hfleet htasks) htasks hnone
  | task hmonitor hfleet htasks =>
    rw [List.append_nil]
    exact h.of_newTask (.task hmonitor hfleet htasks) htasks
  | start hstart htasks => exact h.of_tasks (.start hstart htasks) htasks hothers
  | complete hfree hcomplete htasks =>
    exact h.of_tasks (.complete hfree hcomplete htasks) htasks hothers
  | begin hp hphase hresume htasks => exact h.begin hp hphase hresume htasks
  | suspend hp hphase hfleet htasks =>
    rw [List.append_nil]
    exact h.pause (.suspend hp hphase hfleet htasks) hp htasks (.inr hphase) (.inl rfl) rfl
  | resume hp hphase hresume htasks =>
    rw [List.append_nil]
    have hmove : Move s s' [] := .resume hp hphase hresume htasks
    obtain ⟨rfl, -⟩ := Task.resume_suspended_eq_ok hphase hresume
    exact h.pause hmove hp htasks (.inl hphase) (.inr rfl) rfl
  | finish hp hphase hticket hfinish htasks => exact h.finish hp hphase hticket hfinish htasks
  | cancel hp hphase hticket hcancel htasks => exact h.cancel hp hphase hticket hcancel htasks
  | drop hp hphase hcancel htasks => exact h.drop hp hphase hcancel htasks

end Lives

theorem Reaches.lives {clock : Float} {source : SettingsSource Float} {stamp : Json}
    (h : Reaches (start clock source stamp) events s) : Lives s events := by
  induction h with
  | refl => exact lives_start clock source stamp
  | tail _ hmove ih => exact ih.move hmove

end SendMeter.Session
