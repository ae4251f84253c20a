import SendMeter.Proofs.Scalar.Counting
import SendMeter.Proofs.Session.Accounts
import SendMeter.Proofs.Session.Runs
import SendMeter.Session.Row

namespace SendMeter.Session

variable {ρ : Type} {s s' : Session} {monitor : Nat}

/-- An answer that hands out what code has ended with: the value that it returned, or the error that
it raised. -/
inductive Reply.HandsOut : Reply → Ending → Prop where
  | value (result : Json) : HandsOut (.outcome (.returned result)) (.returns result)
  | error (error : Raised) : HandsOut (.outcome (.raised error)) (.raises error)

theorem Ending.handsOut (ending : Ending) : Reply.HandsOut (.outcome ending.outcome) ending := by
  cases ending with
  | returns result => exact .value result
  | raises error => exact .error error

/-- From an orderly session no hook of a send is refused, whatever its code does, unless there were
more hooks than floats can count. -/
theorem Orderly.exists_sendByHooks (hs : s.Orderly) {n : Nat} (hready : s.fleet.Ready n)
    (hn : n + 1 < 2 ^ 1023) (hmonitor : monitor < s.fleet.monitors.length) {code : Code ρ}
    (hcode : ∀ s : Session, s.Orderly → Leads s (code s).1) :
    ∃ started events, s.fleet.start monitor s.clock = .ok started ∧
      Reaches (s.withFleet started) events (code (s.withFleet started)).1 ∧
      (n + (hooksOf events).length + 2 < 2 ^ 1023 →
        ∃ s', sendByHooks monitor code s = .ok (code (s.withFleet started)).2 s') := by
  obtain ⟨started, hstart⟩ :=
    isOk_iff_exists.mp (hready.isOk_start Binary64.countsBelow hn hmonitor s.clock)
  have hmove : Move s (s.withFleet started) _ := .start hstart rfl
  obtain ⟨hleads, hfree⟩ := hs.leadsBy_start hstart
  obtain ⟨events, hevents⟩ := (hcode _ hleads.orderly).reaches
  refine ⟨started, events, hstart, hevents, fun hlimit => ?_⟩
  have hran : (code (s.withFleet started)).1.fleet.Ready (n + 1 + (hooksOf events).length) :=
    hevents.ready (hmove.ready hready)
  have hlt := Nat.lt_of_lt_of_le hmonitor
    (Nat.le_trans hmove.length_monitors_le hevents.length_monitors_le)
  obtain ⟨completed, hcomplete⟩ := isOk_iff_exists.mp <|
    (hran.isOk_complete_iff Binary64.countsBelow (by omega) hlt (hevents.free hfree).lt_length
      (code (s.withFleet started)).2.2.succeeds none (code (s.withFleet started)).1.clock).mpr
      fun _ hnone => by cases hnone
  exact ⟨_, sendByHooks_of_complete hstart rfl hcomplete⟩

section Call

variable {fuel : Nat} {c : Call Step} {traces : List Trace} {ending : Ending}

/-- The code of a call: time goes by, the steps of its body are done, and it ends. -/
def callCode (fuel : Nat) (c : Call Step) : Code (List Trace) := fun s =>
  let (ran, traces) := runSteps fuel (s.advanceBy c.advance) c.body
  (ran, traces, c.ending)

theorem leads_callCode (fuel : Nat) (c : Call Step) (hs : s.Orderly) :
    Leads s (callCode fuel c s).1 := by
  have hlater := hs.leadsBy_advanceBy c.advance
  exact Leads.trans ⟨[], hlater⟩ (leads_runSteps fuel hlater.orderly c.body)

/-- The bare hooks hand out the ending of a call. -/
theorem ending_of_sendByHooks
    (h : sendByHooks monitor (callCode fuel c) s = .ok (traces, ending) s') :
    ending = c.ending := by
  obtain ⟨started, ran, completed, -, hcode, -⟩ := sendByHooks_eq_ok h
  cases hcode
  rfl

/-- A call leaves the session that the bare hooks leave around its code, with the steps of its body,
and hands out what they hand out. -/
theorem runCall_eq_of_ok (hmonitor : s.monitorNumber? c.monitor = some monitor)
    (h : sendByHooks monitor (callCode fuel c) s = .ok (traces, ending) s') :
    ∃ before after reply, s.runCall (fuel + 1) c =
      (s', .step before traces after reply (s'.readings? c.monitor)) ∧ reply.HandsOut ending := by
  obtain ⟨before, after, hsent⟩ := send_eq_ok c.path c.channel h
  have hresolve : s.resolve c.monitor = .ok monitor := by
    simp [resolve, hmonitor]
  unfold callCode at hsent
  refine ⟨before, after, .outcome ending.outcome, ?_, ending.handsOut⟩
  simp only [runCall, hresolve, hsent]

/-- A call whose hooks are refused leaves what the bare hooks leave, too. -/
theorem runCall_eq_of_error (hmonitor : s.monitorNumber? c.monitor = some monitor)
    {e : HookError Float} (h : sendByHooks monitor (callCode fuel c) s = .error e s') :
    s.runCall (fuel + 1) c =
      (s', .step [] [] [] (.failed (c.path.fault e)) (s'.readings? c.monitor)) := by
  have hsent := send_eq_error c.path c.channel h
  have hresolve : s.resolve c.monitor = .ok monitor := by
    simp [resolve, hmonitor]
  unfold callCode at hsent
  simp only [runCall, hresolve, hsent]
  rfl

section Task

variable {name : String} {number : Nat} {p : PendingCall}

/-- A task that has begun completes its own ticket when it ends. -/
theorem finishTask_begun (t : Task) (success : Bool) (ran : Session) :
    finishTask (s.begun t) success ran =
      match ran.fleet.complete t.block.monitor s.fleet.nextTicket success none ran.clock with
      | .error e => .error (.task (.block (.hook e))) ran
      | .ok f =>
        .ok ({ s.begun t with phase := .ended }, false, ran.leaveRecords (s.begun t).block success)
          (ran.withFleet f) :=
  finishTask_eq (s.begun t) success ran

/-- A task that is run straight to its end, after it has begun and its code was run. -/
theorem runTask_of_start (hcall : s.pendingCall name = .ok (number, p))
    (hphase : p.task.phase = .unstarted) {started : Fleet Float}
    (hstart : s.fleet.start p.task.block.monitor s.clock = .ok started) {ran : Session}
    (hcode : callCode fuel p.call ((s.withFleet started).setTask number (s.begun p.task)) =
      (ran, traces, ending)) :
    ∃ before, s.runTask (fuel + 1) name true =
      match finishTask (s.begun p.task) ending.succeeds ran with
      | .error fault left => (left, (left.refuse fault).trace none)
      | .ok (t, held, after) finished =>
        (finished.setTask number t,
          .task number before traces after (.outcome (ending.through held).outcome)) := by
  have hresume := resumeTask_unstarted hphase s
  simp only [hstart] at hresume
  unfold callCode at hcode
  refine ⟨interceptRecords p.call.path p.call.channel ++ s.startRecords p.task.block.monitor, ?_⟩
  simp only [runTask, hcall, hresume, hphase]
  generalize runSteps fuel (((s.withFleet started).setTask number
    (s.begun p.task)).advanceBy p.call.advance) p.call.body = done at hcode ⊢
  cases hcode
  cases finishTask (s.begun p.task) p.call.ending.succeeds done.1 with
  | ok ended finished => rfl
  | error fault left => rfl

/-- A task that is run straight to its end leaves what the bare hooks leave around its code, except
that it has ended itself, and hands out what they hand out. -/
theorem runTask_eq_of_ok (hcall : s.pendingCall name = .ok (number, p))
    (hphase : p.task.phase = .unstarted)
    (h : sendByHooks p.task.block.monitor (callCode fuel p.call)
      (s.setTask number (s.begun p.task)) = .ok (traces, ending) s') :
    ∃ before after reply, s.runTask (fuel + 1) name true =
      (s'.setTask number { s.begun p.task with phase := .ended },
        .task number before traces after reply) ∧ reply.HandsOut ending := by
  obtain ⟨started, ran, completed, hstart, hcode, hcomplete, rfl⟩ := sendByHooks_eq_ok h
  obtain ⟨before, hrun⟩ := runTask_of_start hcall hphase hstart hcode
  rw [fleet_setTask] at hcomplete
  rw [finishTask_begun, hcomplete] at hrun
  simp only [Ending.through_false] at hrun
  exact ⟨before, _, _, hrun, ending.handsOut⟩

/-- A task whose hooks are refused has not begun, or it leaves what its code has left. -/
theorem runTask_eq_of_error (hcall : s.pendingCall name = .ok (number, p))
    (hphase : p.task.phase = .unstarted) {e : HookError Float}
    (h : sendByHooks p.task.block.monitor (callCode fuel p.call)
      (s.setTask number (s.begun p.task)) = .error e s') :
    (s'.fleet = s.fleet ∧ s.runTask (fuel + 1) name true =
        (s, .stuck number (.outcome (.refused (.block (.hook e)))))) ∨
      s.runTask (fuel + 1) name true =
        (s', .step [] [] [] (.failed (.task (.block (.hook e)))) none) := by
  obtain ⟨hstart, rfl⟩ | ⟨started, traces, ending, hstart, hcode, hcomplete⟩ :=
    sendByHooks_eq_error h
  · rw [fleet_setTask, clock_setTask] at hstart
    have hresume := resumeTask_unstarted hphase s
    simp only [hstart] at hresume
    refine .inl ⟨rfl, ?_⟩
    simp only [runTask, hcall, hresume]
    rfl
  · obtain ⟨before, hrun⟩ := runTask_of_start hcall hphase hstart hcode
    rw [fleet_setTask] at hcomplete
    rw [finishTask_begun, hcomplete] at hrun
    exact .inr hrun

end Task

end Call

end SendMeter.Session
