import SendMeter.Proofs.Session.Steps

namespace SendMeter.Session

/-- A step failed and has left the session as it was, or it did not fail and has led to a session
with a property. -/
def Done.RefusedOr (d : Done) (s : Session) (holds : Session → Prop) : Prop :=
  (∃ fault, d = s.refuse fault) ∨ (d.reply.fault? = none ∧ holds d.session)

variable {s : Session}

namespace Done.RefusedOr

variable {β : Type} {d : Done} {holds : Session → Prop} {k : β → Work Session StepFault Answered}

theorem session_eq (h : d.RefusedOr s holds) {fault : StepFault}
    (hfault : d.reply.fault? = some fault) : d.session = s := by
  obtain ⟨fault, rfl⟩ | ⟨hnone, -⟩ := h
  · rfl
  · rw [hnone] at hfault
    cases hfault

theorem of_get {k : Session → Work Session StepFault Answered}
    (h : (s.perform (k s)).RefusedOr s holds) : (s.perform (get >>= k)).RefusedOr s holds := by
  rw [perform_get_bind]
  exact h

theorem of_ofExcept {x : Except StepFault β}
    (h : ∀ given, x = .ok given → (s.perform (k given)).RefusedOr s holds) :
    (s.perform (ofExcept x >>= k)).RefusedOr s holds := by
  cases x with
  | error fault =>
    rw [perform_bind_of_error (Work.ofExcept_error fault s)]
    exact .inl ⟨fault, rfl⟩
  | ok given =>
    rw [perform_bind_of_ok (Work.ofExcept_ok given s)]
    exact h given rfl

/-- What can fail comes first, and leaves the session as it was if it does. -/
theorem of_bind {w : Work Session StepFault β}
    (herror : ∀ fault after, w s = .error fault after → after = s)
    (hok : ∀ given after, w s = .ok given after →
      (after.perform (k given)).reply.fault? = none ∧ holds (after.perform (k given)).session) :
    (s.perform (w >>= k)).RefusedOr s holds := by
  cases hw : w s with
  | error fault after =>
    rw [perform_bind_of_error hw, herror fault after hw]
    exact .inl ⟨fault, rfl⟩
  | ok given after =>
    rw [perform_bind_of_ok hw]
    exact .inr (hok given after hw)

end Done.RefusedOr

/-- A monitor is given out under its handle. -/
theorem request_turn (s : Session) (how : Request) (name : String) (handle : Option String) :
    (s.perform (request how name handle)).RefusedOr s fun s' => ∃ registry monitor,
      s.asked how name = .ok (registry, monitor) ∧
      s' = { s with registry, handles := give s.handles (handle.getD name) monitor } := by
  cases h : s.asked how name with
  | error e => exact .inl ⟨.registry e, request_of_error h handle⟩
  | ok result =>
    obtain ⟨registry, monitor⟩ := result
    obtain ⟨records, hrequest⟩ := request_of_ok h handle
    rw [hrequest]
    exact .inr ⟨fault?_present _ _ _ _, registry, monitor, rfl, session_present _ _ _ _⟩

theorem newMonitor_turn (s : Session) (name : String) (given : Option GivenSettings)
    (handle : Option String) :
    (s.perform (newMonitor name given handle)).RefusedOr s fun s' => ∃ settings m,
      Monitor.create name settings s.clock = .ok m ∧
      s' = { s.withFleet (s.fleet.add m) with
        handles := give s.handles (handle.getD name) s.fleet.nextMonitor } := by
  obtain ⟨fault, h⟩ | ⟨settings, m, hcreate, h⟩ := s.newMonitor_cases name given handle
  · exact .inl ⟨fault, h⟩
  · rw [h]
    exact .inr ⟨fault?_present _ _ _ _, settings, m, hcreate, session_present _ _ _ _⟩

/-- A hook that is refused leaves the session as it was. -/
theorem onFleet_callM (h : Hook Float) (s : Session) :
    onFleet ((Fleet.callM h).mapError .hook) s =
      match s.fleet.apply h with
      | .ok f => .ok ⟨⟩ (s.withFleet f)
      | .error e => .error (.hook e) s := by
  rw [onFleet, Work.within, Work.mapError, Fleet.callM_eq]
  cases s.fleet.apply h with
  | error e => rfl
  | ok f => rfl

theorem onFleet_attempt_callM (h : Hook Float) (s : Session) :
    onFleet (Fleet.callM h).attempt s =
      match s.fleet.apply h with
      | .ok f => .ok (.ok ⟨⟩) (s.withFleet f)
      | .error e => .ok (.error e) s := by
  rw [onFleet, Work.within, Work.attempt, Fleet.callM_eq]
  cases s.fleet.apply h with
  | error e => rfl
  | ok f => rfl

/-- Starting a send gives a name to its ticket. -/
theorem startSend_turn (s : Session) (handle ticket : String) :
    (s.perform (startSend handle ticket)).RefusedOr s fun s' => ∃ monitor f,
      s.resolve handle = .ok monitor ∧ s.fleet.start monitor s.clock = .ok f ∧
      s' = { s.withFleet f with tickets := give s.tickets ticket s.fleet.nextTicket } := by
  refine .of_get (.of_ofExcept fun monitor hmonitor => .of_bind ?_ ?_)
  · intro fault after h
    rw [onFleet_callM] at h
    split at h
    · cases h
    · cases h
      rfl
  · intro given after h
    rw [onFleet_callM] at h
    split at h
    next f hstart =>
      cases h
      rw [perform_bind_of_ok (Work.modify_apply _ _), perform_get_bind]
      split
      · exact ⟨rfl, monitor, f, hmonitor, hstart, rfl⟩
      · exact ⟨rfl, monitor, f, hmonitor, hstart, rfl⟩
    · cases h

/-- Completing a send does nothing else, and nothing at all if it is refused. -/
theorem completeSend_turn (s : Session) (handle ticket : String) (success : Bool)
    (given : Option Float) :
    (s.perform (completeSend handle ticket success given)).RefusedOr s fun s' => ∃ number monitor,
      s.tickets.lookup ticket = some number ∧ s.resolve handle = .ok monitor ∧
      ((∃ e, s.fleet.complete monitor number success given s.clock = .error e ∧ s' = s) ∨
        ∃ f, s.fleet.complete monitor number success given s.clock = .ok f ∧
          s' = s.withFleet f) := by
  refine .of_get (.of_ofExcept fun number hnumber => .of_ofExcept fun monitor hmonitor =>
    .of_bind ?_ ?_)
  · intro fault after h
    rw [onFleet_attempt_callM] at h
    split at h
    · cases h
    · cases h
  · intro called after h
    rw [perform_get_bind]
    rw [onFleet_attempt_callM] at h
    split at h
    next f hcomplete =>
      cases h
      exact ⟨rfl, number, monitor, lookupName_eq_ok_iff.mp hnumber, hmonitor,
        .inr ⟨f, hcomplete, rfl⟩⟩
    next e hcomplete =>
      cases h
      exact ⟨rfl, number, monitor, lookupName_eq_ok_iff.mp hnumber, hmonitor,
        .inl ⟨e, hcomplete, rfl⟩⟩

theorem newBlock_turn (s : Session) (name handle : String) :
    (s.perform (newBlock name handle)).RefusedOr s fun s' => ∃ monitor,
      s.resolve handle = .ok monitor ∧
      s' = { s with blocks := give s.blocks name (.around monitor) } := by
  refine .of_get (.of_ofExcept fun monitor hmonitor => ?_)
  rw [perform_bind_of_ok (Work.modify_apply _ _)]
  exact .inr ⟨rfl, monitor, hmonitor, rfl⟩

/-- Entering a block starts a send, and keeps its ticket in the block of that name. -/
theorem enterNamed_turn (s : Session) (name : String) :
    (s.perform (enterNamed name)).RefusedOr s fun s' => ∃ b f,
      s.blocks.lookup name = some b ∧ s.fleet.start b.monitor s.clock = .ok f ∧
      s' = { s.withFleet f with
        blocks := give s.blocks name { b with ticket := some s.fleet.nextTicket } } := by
  refine .of_get (.of_ofExcept fun b hb => .of_bind (fun fault after => enterBlock_eq_error) ?_)
  rintro ⟨entered, records⟩ after h
  obtain ⟨f, hstart, rfl, rfl⟩ := enterBlock_eq_ok h
  rw [perform_bind_of_ok (Work.modify_apply _ _), perform_get_bind]
  split
  · exact ⟨rfl, b, f, lookupName_eq_ok_iff.mp hb, hstart, rfl⟩
  · exact ⟨rfl, b, f, lookupName_eq_ok_iff.mp hb, hstart, rfl⟩

/-- Leaving a block completes the ticket in it. -/
theorem leaveNamed_turn (s : Session) (name : String) (success : Bool) :
    (s.perform (leaveNamed name success)).RefusedOr s fun s' => ∃ b ticket f,
      s.blocks.lookup name = some b ∧ b.ticket = some ticket ∧
      s.fleet.complete b.monitor ticket success none s.clock = .ok f ∧ s' = s.withFleet f := by
  refine .of_get (.of_ofExcept fun b hb => .of_bind (fun fault after => leaveBlock_eq_error) ?_)
  rintro ⟨held, records⟩ after h
  obtain ⟨ticket, f, hticket, hcomplete, rfl, -⟩ := leaveBlock_eq_ok h
  exact ⟨rfl, b, ticket, f, lookupName_eq_ok_iff.mp hb, hticket, hcomplete, rfl⟩

/-- A session in which a task was ended from outside. -/
def Cancels (s s' : Session) (number : Nat) : Prop :=
  ∃ p t f, s.tasks[number]? = some p ∧ p.task.cancel s.fleet s.clock = .ok (t, f) ∧
    s' = (s.withFleet f).setTask number t

/-- An attempt to end a task from outside leaves the session as it was unless it succeeds. -/
theorem attempt_cancelTask (t : Task) (s : Session) :
    (∃ fault, (cancelTask t).attempt s = (.ok (.error fault) s :
      EStateM.Result StepFault Session _)) ∨
    ∃ cancelled records f, t.cancel s.fleet s.clock = .ok (cancelled, f) ∧
      (cancelTask t).attempt s = (.ok (.ok (cancelled, false, records)) (s.withFleet f) :
        EStateM.Result StepFault Session _) := by
  rw [Work.attempt_apply]
  cases h : cancelTask t s with
  | error fault after =>
    rw [cancelTask_eq_error h]
    exact .inl ⟨fault, rfl⟩
  | ok given after =>
    obtain ⟨cancelled, held, records⟩ := given
    obtain ⟨f, hcancel, rfl, rfl⟩ := cancelTask_eq_ok h
    exact .inr ⟨cancelled, records, f, hcancel, rfl⟩

/-- A task that is dropped is ended, unless that is refused. -/
theorem dropTask_turn (number : Nat) (s : Session) :
    ∃ records after, dropTask number s = .ok records after ∧
      (after = s ∨ Cancels s after number) := by
  rw [dropTask, Work.get_bind_apply]
  cases hp : s.tasks[number]? with
  | none => exact ⟨[], s, rfl, .inl rfl⟩
  | some p =>
    dsimp only
    obtain ⟨fault, h⟩ | ⟨t, records, f, hcancel, h⟩ := attempt_cancelTask p.task s
    · rw [Work.bind_of_ok h]
      exact ⟨[], s, rfl, .inl rfl⟩
    · rw [Work.bind_of_ok h]
      exact ⟨records, _, rfl, .inr ⟨p, t, f, hp, hcancel, rfl⟩⟩

/-- A new task under a name ends the one that had the name before. -/
theorem newTask_turn (s : Session) (name : String) (c : Call Step) :
    (s.perform (newTask name c)).RefusedOr s fun s' => ∃ monitor,
      s.resolve c.monitor = .ok monitor ∧
      let added := { s with
        tasks := s.tasks ++ [⟨.around monitor, c⟩],
        taskNames := give s.taskNames name s.tasks.length }
      s' = added ∨ ∃ old, s.taskNames.lookup name = some old ∧ Cancels added s' old := by
  refine .of_get (.of_ofExcept fun monitor hmonitor => ?_)
  rw [perform_bind_of_ok (Work.modify_apply _ _)]
  cases hold : s.taskNames.lookup name with
  | none => exact .inr ⟨rfl, monitor, hmonitor, .inl rfl⟩
  | some old =>
    obtain ⟨records, after, hdrop, hafter⟩ := dropTask_turn old { s with
      tasks := s.tasks ++ [⟨.around monitor, c⟩],
      taskNames := give s.taskNames name s.tasks.length }
    rw [perform_bind_of_ok hdrop]
    exact .inr ⟨rfl, monitor, hmonitor, hafter.imp id fun h => ⟨old, rfl, h⟩⟩

/-- The error that is thrown into a task comes out of it, and the task has ended. -/
theorem throwInto_turn (s : Session) (name : String) (error : Raised) :
    (s.perform (throwInto name error)).RefusedOr s fun s' =>
      s' = s ∨ ∃ number p, s.pendingCall name = .ok (number, p) ∧ Cancels s s' number ∧
        (s.perform (throwInto name error)).reply = .thrown (.raised error) true := by
  rw [throwInto, perform_get_bind]
  cases hcall : s.pendingCall name with
  | error fault => exact .inr ⟨rfl, .inl rfl⟩
  | ok result =>
    obtain ⟨number, p⟩ := result
    dsimp only
    obtain ⟨fault, h⟩ | ⟨t, records, f, hcancel, h⟩ := attempt_cancelTask p.task s
    · rw [perform_bind_of_ok h]
      cases fault with
      | task e => exact .inr ⟨rfl, .inl rfl⟩
      | _ => exact .inl ⟨_, rfl⟩
    · rw [perform_bind_of_ok h]
      have hcancels : Cancels s ((s.withFleet f).setTask number t) number :=
        ⟨p, t, f, pendingCall_eq_ok hcall, hcancel, rfl⟩
      refine .inr ⟨rfl, .inr ⟨number, p, rfl, hcancels, ?_⟩⟩
      have hsame : (some error == some error) = true := beq_self_eq_true _
      rw [perform_bind_of_ok (Work.modify_apply _ _)]
      show Reply.thrown (.raised error) (some error == some error) = _
      rw [hsame]

/-- A task that is closed has ended, unless it had ended already. -/
theorem closeTask_turn (s : Session) (name : String) :
    (s.perform (closeTask name)).RefusedOr s fun s' =>
      s' = s ∨ ∃ number p, s.pendingCall name = .ok (number, p) ∧ Cancels s s' number := by
  refine .of_get (.of_ofExcept fun result hcall => ?_)
  obtain ⟨number, p⟩ := result
  dsimp only
  obtain ⟨fault, h⟩ | ⟨t, records, f, hcancel, h⟩ := attempt_cancelTask p.task s
  · rw [perform_bind_of_ok h]
    split
    next => exact .inr ⟨rfl, .inl rfl⟩
    next => exact .inl ⟨_, rfl⟩
    next heq => cases heq
  · rw [perform_bind_of_ok h]
    exact .inr ⟨rfl, .inr ⟨number, p, hcall, p, t, f, pendingCall_eq_ok hcall, hcancel, rfl⟩⟩

/-- A step that fails leaves the session as it was. Only a registry is closed also if it cannot
report on all of its channels. -/
theorem session_simpleStep_of_fault {step : Step} (hstep : step ≠ .shutdown) {fault : StepFault}
    (h : (s.simpleStep step).reply.fault? = some fault) : (s.simpleStep step).session = s := by
  cases step with
  | request how name handle => exact (request_turn s how name handle).session_eq h
  | newMonitor name given handle => exact (newMonitor_turn s name given handle).session_eq h
  | start handle ticket => exact (startSend_turn s handle ticket).session_eq h
  | complete handle ticket success given =>
    exact (completeSend_turn s handle ticket success given).session_eq h
  | newBlock block handle => exact (newBlock_turn s block handle).session_eq h
  | enter block => exact (enterNamed_turn s block).session_eq h
  | leave block success => exact (leaveNamed_turn s block success).session_eq h
  | newTask task c => exact (newTask_turn s task c).session_eq h
  | throwInto task error => exact (throwInto_turn s task error).session_eq h
  | closeTask task => exact (closeTask_turn s task).session_eq h
  | shutdown => exact absurd rfl hstep
  | advance seconds => cases h
  | setClock reading => cases h
  | call c => rfl
  | stepTask task => rfl
  | finishTask task => rfl
  | again times steps => rfl
  | _ => exact session_simpleStep_of_reads rfl

end SendMeter.Session
