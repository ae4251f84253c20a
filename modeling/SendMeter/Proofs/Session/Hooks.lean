import SendMeter.Proofs.Session.Steps

namespace SendMeter.Session

variable {ρ : Type}

/-- A send by the bare hooks: the start, the code, and the completion of the ticket that was given
out. What the code gives and how it ends is handed out, and what was done before a hook is refused
stays done. -/
def sendByHooks (monitor : Nat) (code : Code ρ) : Work Session (HookError Float) (ρ × Ending) :=
  fun s =>
    match s.fleet.start monitor s.clock with
    | .error e => .error e s
    | .ok started =>
      let (ran, given, ending) := code (s.withFleet started)
      match ran.fleet.complete monitor s.fleet.nextTicket ending.succeeds none ran.clock with
      | .error e => .error e ran
      | .ok completed => .ok (given, ending) (ran.withFleet completed)

/-- How a path reports that a hook was refused. -/
def Path.fault (path : Path) (e : HookError Float) : StepFault :=
  if path.isTask then .task (.block (.hook e)) else .block (.hook e)

/-- What a send hands out: what its code gave, and what came out of the send. -/
def Sent.handedOut (sent : Sent ρ) : ρ × Ending :=
  (sent.given, sent.ending)

/-- What comes out of a block that holds no error back is what the code inside has ended with. -/
@[simp] theorem Ending.through_false (ending : Ending) : ending.through false = ending := by
  cases ending with
  | returns result => rfl
  | raises error => rfl

section Paths

variable {monitor : Nat} {code : Code ρ} {s : Session}

section Bare

variable {started completed : Fleet Float} {ran s' : Session} {given : ρ} {ending : Ending}

theorem sendByHooks_of_complete (hstart : s.fleet.start monitor s.clock = .ok started)
    (hcode : code (s.withFleet started) = (ran, given, ending))
    (hcomplete : ran.fleet.complete monitor s.fleet.nextTicket ending.succeeds none ran.clock =
      .ok completed) :
    sendByHooks monitor code s = .ok (given, ending) (ran.withFleet completed) := by
  simp only [sendByHooks, hstart, hcode, hcomplete]

theorem sendByHooks_eq_ok (h : sendByHooks monitor code s = .ok (given, ending) s') :
    ∃ started ran completed, s.fleet.start monitor s.clock = .ok started ∧
      code (s.withFleet started) = (ran, given, ending) ∧
      ran.fleet.complete monitor s.fleet.nextTicket ending.succeeds none ran.clock =
        .ok completed ∧ s' = ran.withFleet completed := by
  unfold sendByHooks at h
  split at h
  · cases h
  next started hstart =>
    dsimp only at h
    split at h
    · cases h
    next completed hcomplete =>
      cases h
      exact ⟨started, _, completed, hstart, rfl, hcomplete, rfl⟩

/-- A send that fails was refused its start, and then its code did not run, or its completion. -/
theorem sendByHooks_eq_error {e : HookError Float} (h : sendByHooks monitor code s = .error e s') :
    (s.fleet.start monitor s.clock = .error e ∧ s' = s) ∨
    ∃ started given ending, s.fleet.start monitor s.clock = .ok started ∧
      code (s.withFleet started) = (s', given, ending) ∧
      s'.fleet.complete monitor s.fleet.nextTicket ending.succeeds none s'.clock = .error e := by
  unfold sendByHooks at h
  split at h
  next hstart =>
    cases h
    exact .inl ⟨hstart, rfl⟩
  next started hstart =>
    dsimp only at h
    split at h
    next hcomplete =>
      cases h
      exact .inr ⟨started, _, _, hstart, rfl, hcomplete⟩
    · cases h

end Bare

/-- A block that is entered and left. -/
theorem sendInBlock_eq_sendByHooks : (Sent.handedOut <$> sendInBlock monitor code) s =
    (sendByHooks monitor code).mapError (fun e => .block (.hook e)) s := by
  simp only [sendInBlock, sendByHooks, Work.map_apply, Work.bind_apply, Work.mapError,
    enterBlock_eq, Block.around, runCode]
  cases s.fleet.start monitor s.clock with
  | error e => rfl
  | ok started =>
    dsimp only
    generalize code (s.withFleet started) = left
    obtain ⟨ran, given, ending⟩ := left
    simp only [leaveBlock_eq]
    cases ran.fleet.complete monitor s.fleet.nextTicket ending.succeeds none ran.clock with
    | error e => rfl
    | ok completed => simp [Sent.handedOut]

/-- A task that is suspended once and is then run to its end. -/
theorem sendInTask_eq_sendByHooks : (Sent.handedOut <$> sendInTask monitor code) s =
    (sendByHooks monitor code).mapError (fun e => .task (.block (.hook e))) s := by
  simp only [sendInTask, sendByHooks, Work.map_apply, Work.bind_apply, Work.mapError, runCode]
  rw [resumeTask_unstarted (t := .around monitor) rfl]
  have hmonitor : (Task.around monitor).block.monitor = monitor := rfl
  rw [hmonitor]
  cases s.fleet.start monitor s.clock with
  | error e => rfl
  | ok started =>
    dsimp only
    rw [resumeTask_suspended (t := (s.begun (.around monitor)).suspend) rfl]
    dsimp only
    generalize code (s.withFleet started) = left
    obtain ⟨ran, given, ending⟩ := left
    simp only [finishTask_eq, begun, Task.suspend, hmonitor]
    cases ran.fleet.complete monitor s.fleet.nextTicket ending.succeeds none ran.clock with
    | error e => rfl
    | ok completed => simp [Sent.handedOut]

/-- All paths agree with the bare hooks: on the session, also where a hook is refused, on what the
code gave, and on the value or the error that comes out. -/
theorem send_eq_sendByHooks (path : Path) (channel : String) (monitor : Nat) (code : Code ρ) :
    Sent.handedOut <$> send path channel monitor code =
      (sendByHooks monitor code).mapError path.fault := by
  have hbefore (w : Work Session StepFault (Sent ρ)) (s : Session) :
      (Sent.handedOut <$> do
        let sent ← w
        return { sent with before := interceptRecords path channel ++ sent.before }) s =
        (Sent.handedOut <$> w) s := by
    rw [Work.map_apply, Work.map_apply, Work.bind_apply]
    cases w s with
    | ok sent left => rfl
    | error fault left => rfl
  funext s
  unfold send Path.fault
  cases path.isTask with
  | true => exact (hbefore _ s).trans sendInTask_eq_sendByHooks
  | false => exact (hbefore _ s).trans sendInBlock_eq_sendByHooks

/-- What a send on any path leaves is what the bare hooks leave. -/
theorem left_send (path : Path) (channel : String) (monitor : Nat) (code : Code ρ) (s : Session) :
    (send path channel monitor code).left s = (sendByHooks monitor code).left s := by
  rw [← Work.left_map Sent.handedOut, send_eq_sendByHooks, Work.left_mapError]

theorem send_eq_ok (path : Path) (channel : String) {given : ρ} {ending : Ending} {s' : Session}
    (h : sendByHooks monitor code s = .ok (given, ending) s') :
    ∃ before after, send path channel monitor code s = .ok ⟨given, ending, before, after⟩ s' := by
  have hsend := congrFun (send_eq_sendByHooks path channel monitor code) s
  rw [Work.map_apply, Work.mapError, h] at hsend
  cases hsent : send path channel monitor code s with
  | error fault left => simp [hsent] at hsend
  | ok sent left =>
    obtain ⟨given', ending', before, after⟩ := sent
    rw [hsent] at hsend
    cases hsend
    exact ⟨before, after, rfl⟩

theorem send_eq_error (path : Path) (channel : String) {e : HookError Float} {s' : Session}
    (h : sendByHooks monitor code s = .error e s') :
    send path channel monitor code s = .error (path.fault e) s' := by
  have hsend := congrFun (send_eq_sendByHooks path channel monitor code) s
  rw [Work.map_apply, Work.mapError, h] at hsend
  cases hsent : send path channel monitor code s with
  | error fault left =>
    rw [hsent] at hsend
    cases hsend
    rfl
  | ok sent left => simp [hsent] at hsend

end Paths

end SendMeter.Session
