import SendMeter.Proofs.Session.Hooks
import SendMeter.Proofs.Session.Orderly
import SendMeter.Proofs.Session.Turns

namespace SendMeter.Session

variable {s s' : Session} {ρ : Type}

namespace Orderly

/-- A change that concerns no monitor, no task and no name. -/
theorem leadsBy_idle (hs : s.Orderly) (hfleet : s'.fleet = s.fleet) (htasks : s'.tasks = s.tasks)
    (hhandles : s'.handles = s.handles) (hchannels : s'.registry.channels = s.registry.channels)
    (htickets : s'.tickets = s.tickets) (hblocks : s'.blocks = s.blocks) : LeadsBy s [] s' := by
  have hmove : Move s s' [] := .idle hfleet htasks
  exact .of_tasks (hs.of_move_same hmove hhandles hchannels htickets hblocks) hmove htasks

theorem leadsBy_advanceBy (hs : s.Orderly) (seconds : Float) : LeadsBy s [] (s.advanceBy seconds) :=
  hs.leadsBy_idle rfl rfl rfl rfl rfl rfl

theorem leadsBy_start (hs : s.Orderly) {monitor : Nat} {f : Fleet Float}
    (hstart : s.fleet.start monitor s.clock = .ok f) :
    LeadsBy s [.hook (.start monitor s.clock)] (s.withFleet f) ∧
      (s.withFleet f).Free s.fleet.nextTicket := by
  have hmove : Move s (s.withFleet f) [.hook (.start monitor s.clock)] := .start hstart rfl
  exact ⟨.of_tasks (hs.of_move_same hmove rfl rfl rfl rfl) hmove rfl,
    hs.tasks.free_nextTicket hstart rfl⟩

theorem leadsBy_complete (hs : s.Orderly) {monitor ticket : Nat} {success : Bool}
    {duration : Option Float} {f : Fleet Float} (hfree : s.Free ticket)
    (hcomplete : s.fleet.complete monitor ticket success duration s.clock = .ok f) :
    LeadsBy s [.hook (.complete monitor ticket success duration s.clock)] (s.withFleet f) := by
  have hmove : Move s (s.withFleet f) [.hook (.complete monitor ticket success duration s.clock)] :=
    .complete hfree hcomplete rfl
  exact .of_tasks (hs.of_move_same hmove rfl rfl rfl rfl) hmove rfl

/-- Names for monitors and channels are given out with a monitor that is there, or with one that was
just made. -/
theorem leadsBy_named (hs : s.Orderly) (hmove : Move s s' []) (htasks : s'.tasks = s.tasks)
    (hhandles : ∀ entry ∈ s'.handles, entry ∈ s.handles ∨ entry.2 < s'.fleet.monitors.length)
    (hchannels : ∀ entry ∈ s'.registry.channels,
      entry ∈ s.registry.channels ∨ entry.2 < s'.fleet.monitors.length)
    (htickets : s'.tickets = s.tickets) (hblocks : s'.blocks = s.blocks) : LeadsBy s [] s' := by
  refine .of_tasks (hs.of_move hmove hhandles hchannels ?_ ?_) hmove htasks
  · exact fun entry hentry => .inl (htickets ▸ hentry)
  · exact fun entry hentry => .inl (hblocks ▸ hentry)

/-- A name is given to a block that holds no ticket of a task. -/
theorem leadsBy_giveBlock (hs : s.Orderly) {b : Block}
    (hfree : ∀ ticket, b.ticket = some ticket → s.Free ticket) (name : String) :
    LeadsBy s [] { s with blocks := give s.blocks name b } := by
  have hmove : Move s { s with blocks := give s.blocks name b } [] := .idle rfl rfl
  refine .of_tasks (hs.of_move hmove ?_ ?_ ?_ ?_) hmove rfl
  · exact fun entry hentry => .inl hentry
  · exact fun entry hentry => .inl hentry
  · exact fun entry hentry => .inl hentry
  · intro entry hentry
    obtain hold | hnew := mem_give hentry
    · exact .inl hold
    · rw [hnew]
      exact .inr fun ticket hticket => hmove.free (hfree ticket hticket)

/-- A task that is ended from outside fails if it was suspended, and calls no hook if it was not
resumed yet. -/
theorem leadsBy_cancels (hs : s.Orderly) {task : Nat} (h : Cancels s s' task) :
    ∃ p, s.tasks[task]? = some p ∧
      ((p.task.phase = .unstarted ∧ LeadsBy s [.cancelled task none] s') ∨
        ∃ ticket, p.task.phase = .suspended ∧ p.task.block.ticket = some ticket ∧
          LeadsBy s [.cancelled task
            (some (.complete p.task.block.monitor ticket false none s.clock))] s') := by
  obtain ⟨p, t, f, hp, hcancel, rfl⟩ := h
  refine ⟨p, hp, ?_⟩
  obtain ⟨hphase, -⟩ | ⟨hphase, hfinish⟩ := Task.cancel_eq_ok hcancel
  · have hmove : Move s ((s.withFleet f).setTask task t) [.cancelled task none] :=
      .drop hp hphase hcancel rfl
    have hne : p.task.phase ≠ .running := by
      rw [hphase]
      decide
    exact .inl ⟨hphase,
      (LeadsBy.refl hs).setTask (hs.of_move_same hmove rfl rfl rfl rfl) hmove hp hne rfl⟩
  · obtain ⟨ticket, hticket, -⟩ := Task.finish_eq_ok hfinish
    have hmove : Move s ((s.withFleet f).setTask task t) [.cancelled task
        (some (.complete p.task.block.monitor ticket false none s.clock))] :=
      .cancel hp hphase hticket hcancel rfl
    have hne : p.task.phase ≠ .running := by
      rw [hphase]
      decide
    exact .inr ⟨ticket, hphase, hticket,
      (LeadsBy.refl hs).setTask (hs.of_move_same hmove rfl rfl rfl rfl) hmove hp hne rfl⟩

theorem leads_cancels (hs : s.Orderly) {task : Nat} (h : Cancels s s' task) : Leads s s' := by
  obtain ⟨p, -, ⟨-, hleads⟩ | ⟨ticket, -, -, hleads⟩⟩ := hs.leadsBy_cancels h
  · exact ⟨_, hleads⟩
  · exact ⟨_, hleads⟩

end Orderly

section Send

variable {ran : Session} {body : List Event}

/-- A send starts, runs its code, and completes its ticket if that is not refused. These are its
events, and between them are those of its code. -/
theorem Orderly.leadsBy_send (hs : s.Orderly) (path : Path) (channel : String) {monitor : Nat}
    (code : Code ρ) {f : Fleet Float} (hstart : s.fleet.start monitor s.clock = .ok f) {given : ρ}
    {ending : Ending} (hcode : code (s.withFleet f) = (ran, given, ending))
    (hran : LeadsBy (s.withFleet f) body ran) :
    (∃ e, ran.fleet.complete monitor s.fleet.nextTicket ending.succeeds none ran.clock = .error e ∧
      (send path channel monitor code).left s = ran ∧
      LeadsBy s (.hook (.start monitor s.clock) :: body) ran) ∨
    ∃ completed, ran.fleet.complete monitor s.fleet.nextTicket ending.succeeds none ran.clock =
        .ok completed ∧
      (send path channel monitor code).left s = ran.withFleet completed ∧
      LeadsBy s (.hook (.start monitor s.clock) :: (body ++
        [.hook (.complete monitor s.fleet.nextTicket ending.succeeds none ran.clock)]))
        (ran.withFleet completed) := by
  obtain ⟨hleads, hfree⟩ := hs.leadsBy_start hstart
  have hbody := hleads.trans hran
  rw [left_send, Work.left, sendByHooks, hstart]
  simp only [hcode]
  cases hcomplete :
    ran.fleet.complete monitor s.fleet.nextTicket ending.succeeds none ran.clock with
  | error e => exact .inl ⟨e, rfl, rfl, hbody⟩
  | ok completed =>
    have hended := hran.orderly.leadsBy_complete (hran.reaches.free hfree) hcomplete
    exact .inr ⟨completed, rfl, rfl, hbody.trans hended⟩

/-- A send leads to what it leaves, also if one of its hooks is refused. -/
theorem Orderly.leads_send (hs : s.Orderly) (path : Path) (channel : String) (monitor : Nat)
    {code : Code ρ} (hcode : ∀ s : Session, s.Orderly → Leads s (code s).1) :
    Leads s ((send path channel monitor code).left s) := by
  cases hstart : s.fleet.start monitor s.clock with
  | error e =>
    rw [left_send, Work.left, sendByHooks, hstart]
    exact .refl hs
  | ok f =>
    obtain ⟨body, hran⟩ := hcode _ (hs.leadsBy_start hstart).1.orderly
    obtain ⟨e, -, hleft, hleads⟩ | ⟨completed, -, hleft, hleads⟩ :=
      hs.leadsBy_send path channel code hstart rfl hran
    · rw [hleft]
      exact ⟨_, hleads⟩
    · rw [hleft]
      exact ⟨_, hleads⟩

end Send

section Step

theorem leadsBy_request (hs : s.Orderly) (how : Request) (name : String) (handle : Option String) :
    LeadsBy s [] (s.perform (request how name handle)).session := by
  obtain ⟨fault, h⟩ | ⟨-, registry, monitor, hasked, h⟩ := request_turn s how name handle
  · rw [h]
    exact .refl hs
  · rw [h]
    obtain ⟨rfl, hfind⟩ | hregister := asked_eq_ok_cases hasked
    · have hlt : monitor < s.fleet.monitors.length := hs.channels _ (mem_of_lookup hfind)
      refine hs.leadsBy_named (.idle rfl rfl) rfl ?_ (fun entry hentry => .inl hentry) rfl rfl
      intro entry hentry
      obtain hold | hnew := mem_give hentry
      · exact .inl hold
      · exact .inr (hnew ▸ hlt)
    · obtain ⟨-, -, rfl, settings, m, -, hcreate, rfl⟩ :=
        Registry.register_eq_ok_iff.mp hregister
      have hlt : s.fleet.nextMonitor < (s.fleet.add m).monitors.length := by
        rw [Fleet.add, List.length_append]
        exact Nat.lt_succ_self _
      refine hs.leadsBy_named (.monitor hcreate rfl rfl) rfl ?_ ?_ rfl rfl
      · intro entry hentry
        obtain hold | hnew := mem_give hentry
        · exact .inl hold
        · exact .inr (hnew ▸ hlt)
      · intro entry hentry
        obtain hold | hnew := List.mem_append.mp hentry
        · exact .inl hold
        · rw [List.mem_singleton.mp hnew]
          exact .inr hlt

theorem leadsBy_newMonitor (hs : s.Orderly) (name : String) (given : Option GivenSettings)
    (handle : Option String) :
    LeadsBy s [] (s.perform (newMonitor name given handle)).session := by
  obtain ⟨fault, h⟩ | ⟨-, settings, m, hcreate, h⟩ := newMonitor_turn s name given handle
  · rw [h]
    exact .refl hs
  · rw [h]
    have hlt : s.fleet.nextMonitor < (s.fleet.add m).monitors.length := by
      rw [Fleet.add, List.length_append]
      exact Nat.lt_succ_self _
    refine hs.leadsBy_named (.monitor hcreate rfl rfl) rfl ?_ (fun entry hentry => .inl hentry)
      rfl rfl
    intro entry hentry
    obtain hold | hnew := mem_give hentry
    · exact .inl hold
    · exact .inr (hnew ▸ hlt)

/-- The one event of a step that starts a send. -/
theorem leadsBy_startSend (hs : s.Orderly) (handle ticket : String) :
    (∃ fault, s.perform (startSend handle ticket) = s.refuse fault) ∨
    ∃ monitor, s.resolve handle = .ok monitor ∧
      LeadsBy s [.hook (.start monitor s.clock)] (s.perform (startSend handle ticket)).session := by
  obtain hrefused | ⟨-, monitor, f, hmonitor, hstart, h⟩ := startSend_turn s handle ticket
  · exact .inl hrefused
  · rw [h]
    have hmove : Move s
        { s.withFleet f with tickets := give s.tickets ticket s.fleet.nextTicket }
        [.hook (.start monitor s.clock)] :=
      .start hstart rfl
    refine .inr ⟨monitor, hmonitor, .of_tasks (hs.of_move hmove ?_ ?_ ?_ ?_) hmove rfl⟩
    · exact fun entry hentry => .inl hentry
    · exact fun entry hentry => .inl hentry
    · intro entry hentry
      obtain hold | hnew := mem_give hentry
      · exact .inl hold
      · rw [hnew]
        exact .inr (hs.tasks.free_nextTicket hstart rfl)
    · exact fun entry hentry => .inl hentry

/-- The one event of a step that completes a send, unless it is refused. -/
theorem leadsBy_completeSend (hs : s.Orderly) (handle ticket : String) (success : Bool)
    (given : Option Float) :
    (s.perform (completeSend handle ticket success given)).session = s ∨
    ∃ monitor number, s.resolve handle = .ok monitor ∧ s.tickets.lookup ticket = some number ∧
      LeadsBy s [.hook (.complete monitor number success given s.clock)]
        (s.perform (completeSend handle ticket success given)).session := by
  obtain ⟨fault, h⟩ | ⟨-, number, monitor, hnumber, hmonitor,
      ⟨e, -, h⟩ | ⟨f, hcomplete, h⟩⟩ := completeSend_turn s handle ticket success given
  · rw [h]
    exact .inl rfl
  · exact .inl h
  · rw [h]
    have hfree := hs.tickets _ (mem_of_lookup hnumber)
    exact .inr ⟨monitor, number, hmonitor, hnumber, hs.leadsBy_complete hfree hcomplete⟩

/-- The one event of entering a block. -/
theorem leadsBy_enterNamed (hs : s.Orderly) (name : String) :
    (∃ fault, s.perform (enterNamed name) = s.refuse fault) ∨
    ∃ b, s.blocks.lookup name = some b ∧
      LeadsBy s [.hook (.start b.monitor s.clock)] (s.perform (enterNamed name)).session := by
  obtain hrefused | ⟨-, b, f, hb, hstart, h⟩ := enterNamed_turn s name
  · exact .inl hrefused
  · rw [h]
    obtain ⟨hleads, hfree⟩ := hs.leadsBy_start hstart
    refine .inr ⟨b, hb, hleads.trans (hleads.orderly.leadsBy_giveBlock ?_ name)⟩
    intro ticket hticket
    rw [← Option.some.inj hticket]
    exact hfree

/-- The one event of leaving a block. -/
theorem leadsBy_leaveNamed (hs : s.Orderly) (name : String) (success : Bool) :
    (∃ fault, s.perform (leaveNamed name success) = s.refuse fault) ∨
    ∃ b ticket, s.blocks.lookup name = some b ∧ b.ticket = some ticket ∧
      LeadsBy s [.hook (.complete b.monitor ticket success none s.clock)]
        (s.perform (leaveNamed name success)).session := by
  obtain hrefused | ⟨-, b, ticket, f, hb, hticket, hcomplete, h⟩ := leaveNamed_turn s name success
  · exact .inl hrefused
  · rw [h]
    have hfree := hs.blocks _ (mem_of_lookup hb) ticket hticket
    exact .inr ⟨b, ticket, hb, hticket, hs.leadsBy_complete hfree hcomplete⟩

theorem leadsBy_newBlock (hs : s.Orderly) (name handle : String) :
    LeadsBy s [] (s.perform (newBlock name handle)).session := by
  obtain ⟨fault, h⟩ | ⟨-, monitor, -, h⟩ := newBlock_turn s name handle
  · rw [h]
    exact .refl hs
  · rw [h]
    refine hs.leadsBy_giveBlock (b := .around monitor) (fun ticket hticket => ?_) name
    cases hticket

/-- A new task makes no event, but the one that had its name before may be ended. -/
theorem leadsBy_newTask (hs : s.Orderly) (name : String) (c : Call Step) :
    LeadsBy s [] (s.perform (newTask name c)).session ∨
    ∃ old added, s.taskNames.lookup name = some old ∧ LeadsBy s [] added ∧
      Cancels added (s.perform (newTask name c)).session old := by
  obtain ⟨fault, h⟩ | ⟨-, monitor, hmonitor, h⟩ := newTask_turn s name c
  · rw [h]
    exact .inl (.refl hs)
  · have hmove : Move s { s with
        tasks := s.tasks ++ [⟨.around monitor, c⟩]
        taskNames := give s.taskNames name s.tasks.length } [] :=
      .task (hs.handles _ (resolve_eq_ok hmonitor)) rfl rfl
    have hadded : LeadsBy s [] { s with
        tasks := s.tasks ++ [⟨.around monitor, c⟩]
        taskNames := give s.taskNames name s.tasks.length } := by
      refine ⟨hs.of_move_same hmove rfl rfl rfl rfl, hmove.reaches, fun task p hp _ => ?_⟩
      exact List.getElem?_append_left (List.getElem?_eq_some_iff.mp hp).1 ▸ hp
    obtain h | ⟨old, hold, h⟩ := h
    · rw [h]
      exact .inl hadded
    · exact .inr ⟨old, _, hold, hadded, h⟩

/-- What is thrown into a task ends it, or does nothing. -/
theorem cancels_throwInto (s : Session) (name : String) (error : Raised) :
    (s.perform (throwInto name error)).session = s ∨
    ∃ number p, s.pendingCall name = .ok (number, p) ∧
      Cancels s (s.perform (throwInto name error)).session number := by
  obtain ⟨fault, h⟩ | ⟨-, h | ⟨number, p, hcall, h, -⟩⟩ := throwInto_turn s name error
  · rw [h]
    exact .inl rfl
  · exact .inl h
  · exact .inr ⟨number, p, hcall, h⟩

theorem cancels_closeTask (s : Session) (name : String) :
    (s.perform (closeTask name)).session = s ∨
    ∃ number p, s.pendingCall name = .ok (number, p) ∧
      Cancels s (s.perform (closeTask name)).session number := by
  obtain ⟨fault, h⟩ | ⟨-, h⟩ := closeTask_turn s name
  · rw [h]
    exact .inl rfl
  · exact h

/-- Closing the registry forgets channels, and no monitor. -/
theorem leadsBy_shutdown (hs : s.Orderly) : LeadsBy s [] s.shutdown.session := by
  rw [session_shutdown]
  refine hs.leadsBy_named (.idle rfl rfl) rfl (fun entry hentry => .inl hentry) ?_ rfl rfl
  intro entry hentry
  cases hentry

theorem leads_simpleStep (hs : s.Orderly) (step : Step) :
    Leads s (s.simpleStep step).session := by
  have hsame (h : (s.simpleStep step).session = s) : Leads s (s.simpleStep step).session := by
    rw [h]
    exact .refl hs
  cases step with
  | advance seconds => exact ⟨[], hs.leadsBy_advanceBy seconds⟩
  | setClock reading => exact ⟨[], hs.leadsBy_idle rfl rfl rfl rfl rfl rfl⟩
  | request how name handle => exact ⟨[], leadsBy_request hs how name handle⟩
  | newMonitor name given handle => exact ⟨[], leadsBy_newMonitor hs name given handle⟩
  | start handle ticket =>
    obtain ⟨fault, h⟩ | ⟨monitor, -, h⟩ := leadsBy_startSend hs handle ticket
    · exact hsame (congrArg Done.session h)
    · exact ⟨_, h⟩
  | complete handle ticket success given =>
    obtain h | ⟨monitor, number, -, -, h⟩ := leadsBy_completeSend hs handle ticket success given
    · exact hsame h
    · exact ⟨_, h⟩
  | newBlock block handle => exact ⟨[], leadsBy_newBlock hs block handle⟩
  | enter block =>
    obtain ⟨fault, h⟩ | ⟨b, -, h⟩ := leadsBy_enterNamed hs block
    · exact hsame (congrArg Done.session h)
    · exact ⟨_, h⟩
  | leave block success =>
    obtain ⟨fault, h⟩ | ⟨b, ticket, -, -, h⟩ := leadsBy_leaveNamed hs block success
    · exact hsame (congrArg Done.session h)
    · exact ⟨_, h⟩
  | newTask task c =>
    obtain h | ⟨old, added, -, hadded, h⟩ := leadsBy_newTask hs task c
    · exact ⟨[], h⟩
    · exact Leads.trans ⟨[], hadded⟩ (hadded.orderly.leads_cancels h)
  | throwInto task error =>
    obtain h | ⟨number, p, -, h⟩ := cancels_throwInto s task error
    · exact hsame h
    · exact hs.leads_cancels h
  | closeTask task =>
    obtain h | ⟨number, p, -, h⟩ := cancels_closeTask s task
    · exact hsame h
    · exact hs.leads_cancels h
  | shutdown => exact ⟨[], leadsBy_shutdown hs⟩
  | call c => exact .refl hs
  | stepTask task => exact .refl hs
  | finishTask task => exact .refl hs
  | again times steps => exact .refl hs
  | _ => exact hsame (session_simpleStep_of_reads rfl)

end Step

section Run

variable {number : Nat} {p : PendingCall} {resumed : Session} {t : Task}
  {records : List Log.Record}

/-- What is done when a task is resumed: it starts its send if it was not resumed before. -/
def resumption (s : Session) (number : Nat) (p : PendingCall) : List Event :=
  if p.task.phase = .unstarted then [.begun number (.start p.task.block.monitor s.clock)] else []

/-- A task that is resumed is being run, and its ticket is its own. -/
theorem Orderly.leadsBy_resumeTask (hs : s.Orderly) (hp : s.tasks[number]? = some p)
    (h : resumeTask p.task s = .ok (t, records) resumed) :
    LeadsBy s (s.resumption number p) (resumed.setTask number t) ∧ p.task.phase ≠ .running ∧
      t.phase = .running ∧
      (resumed.setTask number t).tasks[number]? = some { p with task := t } := by
  obtain ⟨f, hresume, rfl⟩ := resumeTask_eq_ok h
  have hself := getElem?_setTask_self (s := s.withFleet f) hp t
  unfold resumption
  obtain ⟨hphase, hsuspended⟩ | ⟨hphase, hunstarted⟩ := Task.resume_eq_ok hresume
  · have hne : p.task.phase ≠ .running := by
      rw [hphase]
      decide
    have hmove : Move s ((s.withFleet f).setTask number t) [] := .resume hp hphase hresume rfl
    have hleads :=
      (LeadsBy.refl hs).setTask (hs.of_move_same hmove rfl rfl rfl rfl) hmove hp hne rfl
    rw [hphase, if_neg (by decide)]
    exact ⟨hleads, by decide, by rw [hsuspended.1], hself⟩
  · have hne : p.task.phase ≠ .running := by
      rw [hphase]
      decide
    have hmove : Move s ((s.withFleet f).setTask number t)
        [.begun number (.start p.task.block.monitor s.clock)] :=
      .begin hp hphase hresume rfl
    have hleads :=
      (LeadsBy.refl hs).setTask (hs.of_move_same hmove rfl rfl rfl rfl) hmove hp hne rfl
    rw [hphase, if_pos rfl]
    exact ⟨hleads, by decide, by rw [hunstarted.2], hself⟩

/-- A task that waits for its send after it was resumed has made no further event. -/
theorem Orderly.leadsBy_suspend (hs : s.Orderly) (hp : s.tasks[number]? = some p)
    (h : resumeTask p.task s = .ok (t, records) resumed) :
    LeadsBy s (s.resumption number p) (resumed.setTask number t.suspend) := by
  obtain ⟨hleads, hne, hrunning, hself⟩ := hs.leadsBy_resumeTask hp h
  have htasks : (resumed.setTask number t.suspend).tasks =
      ((resumed.setTask number t).setTask number t.suspend).tasks := by
    rw [setTask_setTask]
  have hmove : Move (resumed.setTask number t) (resumed.setTask number t.suspend) [] :=
    .suspend hself hrunning rfl htasks
  have hsuspended := hleads.orderly.of_move_same hmove rfl rfl rfl rfl
  have hended := hleads.setTask hsuspended hmove hp hne htasks
  rwa [List.append_nil] at hended

/-- A task whose code was run ends, with the ending of its call. -/
theorem Orderly.leadsBy_finishTask (hs : s.Orderly) (hp : s.tasks[number]? = some p)
    (h : resumeTask p.task s = .ok (t, records) resumed) {ran finished : Session} {t' : Task}
    {held : Bool} {after : List Log.Record} {body : List Event}
    (hran : LeadsBy (resumed.setTask number t) body ran)
    (hfinished : finishTask t p.call.ending.succeeds ran = .ok (t', held, after) finished) :
    ∃ ticket, t.block.ticket = some ticket ∧
      LeadsBy s (s.resumption number p ++ body ++ [.finished number p.call.ending
        (.complete t.block.monitor ticket p.call.ending.succeeds none ran.clock)])
        (finished.setTask number t') := by
  obtain ⟨hleads, hne, hrunning, hself⟩ := hs.leadsBy_resumeTask hp h
  obtain ⟨f, hfinish, rfl, -⟩ := finishTask_eq_ok hfinished
  obtain ⟨ticket, hticket, -⟩ := Task.finish_eq_ok hfinish
  have hkept := hran.running number { p with task := t } hself hrunning
  have hmove : Move ran ((ran.withFleet f).setTask number t') [.finished number p.call.ending
      (.complete t.block.monitor ticket p.call.ending.succeeds none ran.clock)] :=
    .finish hkept hrunning hticket hfinish rfl
  have hended := hran.orderly.of_move_same hmove rfl rfl rfl rfl
  exact ⟨ticket, hticket, (hleads.trans hran).setTask hended hmove hp hne rfl⟩

end Run

-- The induction is on the fuel, as in the definitions of the runs: the body of a call or of a task
-- is run with less fuel.
mutual

theorem leads_runStep (fuel : Nat) {s : Session} (hs : s.Orderly) (step : Step) :
    Leads s (s.runStep fuel step).1 := by
  cases fuel with
  | zero => exact .refl hs
  | succ fuel =>
    cases step with
    | call c => exact leads_runCall fuel hs c
    | stepTask task => exact leads_runTask fuel hs task false
    | finishTask task => exact leads_runTask fuel hs task true
    | again times steps => exact leads_runAgain fuel hs times steps
    | _ => exact leads_simpleStep hs _

theorem leads_runSteps (fuel : Nat) {s : Session} (hs : s.Orderly) (steps : List Step) :
    Leads s (s.runSteps fuel steps).1 := by
  cases fuel with
  | zero => exact .refl hs
  | succ fuel =>
    cases steps with
    | nil => exact .refl hs
    | cons step steps =>
      have hstep := leads_runStep fuel hs step
      exact hstep.trans (leads_runSteps fuel hstep.orderly steps)

theorem leads_runUntil (fuel : Nat) {s : Session} (hs : s.Orderly) (steps : List Step) :
    Leads s (s.runUntil fuel steps).1 := by
  cases fuel with
  | zero => exact .refl hs
  | succ fuel =>
    cases steps with
    | nil => exact .refl hs
    | cons step steps =>
      have hstep := leads_runStep fuel hs step
      simp only [runUntil]
      split
      · exact hstep
      · exact hstep.trans (leads_runUntil fuel hstep.orderly steps)

theorem leads_runAgain (fuel : Nat) {s : Session} (hs : s.Orderly) (times : Nat)
    (steps : List Step) : Leads s (s.runAgain fuel times steps).1 := by
  cases fuel with
  | zero => exact .refl hs
  | succ fuel =>
    cases times with
    | zero => exact .refl hs
    | succ times =>
      have hpass := leads_runUntil fuel hs steps
      simp only [runAgain]
      split
      next hstopped =>
        rw [hstopped] at hpass
        exact hpass
      next hended =>
        rw [hended] at hpass
        exact hpass.trans (leads_runAgain fuel hpass.orderly times steps)

theorem leads_runCall (fuel : Nat) {s : Session} (hs : s.Orderly) (c : Call Step) :
    Leads s (s.runCall fuel c).1 := by
  cases fuel with
  | zero => exact .refl hs
  | succ fuel =>
    simp only [runCall]
    split
    · exact .refl hs
    next monitor _ =>
      have hcode (s : Session) (hs : s.Orderly) :
          Leads s (runSteps fuel (s.advanceBy c.advance) c.body).1 := by
        have hlater := hs.leadsBy_advanceBy c.advance
        exact Leads.trans ⟨[], hlater⟩ (leads_runSteps fuel hlater.orderly c.body)
      split
      next hsent =>
        show Leads s _
        rw [← Work.left_of_error hsent]
        exact hs.leads_send c.path c.channel monitor hcode
      next hsent =>
        show Leads s _
        rw [← Work.left_of_ok hsent]
        exact hs.leads_send c.path c.channel monitor hcode

theorem leads_runTask (fuel : Nat) {s : Session} (hs : s.Orderly) (name : String) (toEnd : Bool) :
    Leads s (s.runTask fuel name toEnd).1 := by
  cases fuel with
  | zero => exact .refl hs
  | succ fuel =>
    simp only [runTask]
    split
    · exact .refl hs
    next number p hcall =>
      have hp := pendingCall_eq_ok hcall
      split
      next hrefused =>
        rw [resumeTask_eq_error hrefused]
        exact .refl hs
      next hrefused =>
        rw [resumeTask_eq_error hrefused]
        exact .refl hs
      next t records resumed hresume =>
        split
        · exact ⟨_, hs.leadsBy_suspend hp hresume⟩
        · have hresumed := (hs.leadsBy_resumeTask hp hresume).1
          have hlater := hresumed.orderly.leadsBy_advanceBy p.call.advance
          have hbody : Leads (resumed.setTask number t) _ :=
            Leads.trans ⟨[], hlater⟩ (leads_runSteps fuel hlater.orderly p.call.body)
          split
          next hrefused =>
            rw [finishTask_eq_error hrefused]
            exact Leads.trans ⟨_, hresumed⟩ hbody
          next hfinish =>
            obtain ⟨body, hran⟩ := hbody
            obtain ⟨ticket, -, hleads⟩ := hs.leadsBy_finishTask hp hresume hran hfinish
            exact ⟨_, hleads⟩

end

/-- Every run of a session is a chain of moves. -/
theorem reaches_run (clock : Float) (source : SettingsSource Float) (stamp : Json)
    (steps : List Step) :
    ∃ events, Reaches (start clock source stamp) events ((start clock source stamp).run steps).1 :=
  (leads_runSteps (Step.costs steps) (orderly_start clock source stamp) steps).reaches

end SendMeter.Session
