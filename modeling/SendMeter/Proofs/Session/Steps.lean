import SendMeter.Proofs.Interception.Steps
import SendMeter.Proofs.Registry.Steps
import SendMeter.Session.Run

namespace SendMeter.Session

variable {s after : Session} {records : List Log.Record}

@[simp] theorem fleet_withFleet (s : Session) (f : Fleet Float) : (s.withFleet f).fleet = f := rfl

@[simp] theorem withFleet_withFleet (s : Session) (f g : Fleet Float) :
    (s.withFleet f).withFleet g = s.withFleet g := rfl

@[simp] theorem fleet_advanceBy (s : Session) (seconds : Float) :
    (s.advanceBy seconds).fleet = s.fleet := rfl

@[simp] theorem fleet_setTask (s : Session) (task : Nat) (t : Task) :
    (s.setTask task t).fleet = s.fleet := rfl

@[simp] theorem clock_setTask (s : Session) (task : Nat) (t : Task) :
    (s.setTask task t).clock = s.clock := rfl

section OnFleet

variable {β : Type} {w : Work (Fleet Float) StepFault β} {fault : StepFault}

theorem onFleet_eq_ok_iff {given : β} :
    onFleet w s = .ok given after ↔ ∃ f, w s.fleet = .ok given f ∧ after = s.withFleet f := by
  unfold onFleet Work.within
  cases w s.fleet with
  | ok first f => simp [eq_comm, and_assoc]
  | error e f => simp

private theorem onFleet_eq_error_iff :
    onFleet w s = .error fault after ↔ ∃ f, w s.fleet = .error fault f ∧ after = s.withFleet f := by
  unfold onFleet Work.within
  cases w s.fleet with
  | ok first f => simp
  | error e f => simp [eq_comm, and_assoc]

/-- Work that leaves the fleet as it was when it fails leaves the session as it was. -/
theorem onFleet_eq_error (hw : ∀ f, w s.fleet = .error fault f → f = s.fleet)
    (h : onFleet w s = .error fault after) : after = s := by
  obtain ⟨f, hf, rfl⟩ := onFleet_eq_error_iff.mp h
  rw [hw f hf]
  rfl

end OnFleet

section Around

variable {fault : StepFault}

/-- A block that cannot be entered leaves the session as it was. -/
theorem enterBlock_eq (b : Block) (s : Session) : enterBlock b s =
    match s.fleet.start b.monitor s.clock with
    | .error e => .error (.block (.hook e)) s
    | .ok f =>
      .ok ({ b with ticket := some s.fleet.nextTicket }, s.startRecords b.monitor)
        (s.withFleet f) := by
  simp only [enterBlock, Work.bind_apply, Work.get_apply, onFleet, Work.within, Work.mapError,
    Block.enterM_eq]
  cases s.fleet.start b.monitor s.clock with
  | error e => rfl
  | ok f => rfl

theorem enterBlock_eq_ok {b entered : Block}
    (h : enterBlock b s = .ok (entered, records) after) :
    ∃ f, s.fleet.start b.monitor s.clock = .ok f ∧ after = s.withFleet f ∧
      entered = { b with ticket := some s.fleet.nextTicket } := by
  rw [enterBlock_eq] at h
  split at h
  · cases h
  next f hstart =>
    cases h
    exact ⟨f, hstart, rfl, rfl⟩

theorem enterBlock_eq_error {b : Block} (h : enterBlock b s = .error fault after) : after = s := by
  rw [enterBlock_eq] at h
  split at h
  · cases h
    rfl
  · cases h

/-- A block that cannot be left leaves the session as it was. -/
theorem leaveBlock_eq (b : Block) (success : Bool) (s : Session) : leaveBlock b success s =
    match b.ticket with
    | none => .error (.block .notEntered) s
    | some ticket =>
      match s.fleet.complete b.monitor ticket success none s.clock with
      | .error e => .error (.block (.hook e)) s
      | .ok f => .ok (false, s.leaveRecords b success) (s.withFleet f) := by
  simp only [leaveBlock, Work.bind_apply, Work.get_apply, onFleet, Work.within, Work.mapError,
    Block.leaveM_eq]
  cases b.ticket with
  | none => rfl
  | some ticket =>
    dsimp only
    cases s.fleet.complete b.monitor ticket success none s.clock with
    | error e => rfl
    | ok f => rfl

theorem leaveBlock_eq_ok {b : Block} {success held : Bool}
    (h : leaveBlock b success s = .ok (held, records) after) :
    ∃ ticket f, b.ticket = some ticket ∧
      s.fleet.complete b.monitor ticket success none s.clock = .ok f ∧ after = s.withFleet f ∧
      held = false := by
  rw [leaveBlock_eq] at h
  split at h
  · cases h
  next ticket hticket =>
    split at h
    · cases h
    next f hcomplete =>
      cases h
      exact ⟨ticket, f, hticket, hcomplete, rfl, rfl⟩

theorem leaveBlock_eq_error {b : Block} {success : Bool}
    (h : leaveBlock b success s = .error fault after) : after = s := by
  rw [leaveBlock_eq] at h
  split at h
  · cases h
    rfl
  · split at h
    · cases h
      rfl
    · cases h

theorem resumeTask_eq_ok {t resumed : Task}
    (h : resumeTask t s = .ok (resumed, records) after) :
    ∃ f, t.resume s.fleet s.clock = .ok (resumed, f) ∧ after = s.withFleet f := by
  rw [resumeTask, Work.get_bind_apply] at h
  obtain ⟨given, left, hresume, h⟩ := Work.bind_eq_ok_iff.mp h
  cases h
  obtain ⟨f, hf, rfl⟩ := onFleet_eq_ok_iff.mp hresume
  exact ⟨f, Task.resume_eq_ok_iff.mpr (Work.mapError_eq_ok_iff.mp hf), rfl⟩

theorem resumeTask_eq_error {t : Task} (h : resumeTask t s = .error fault after) : after = s := by
  rw [resumeTask, Work.get_bind_apply] at h
  obtain hresume | ⟨given, left, -, h⟩ := Work.bind_eq_error_iff.mp h
  · refine onFleet_eq_error (fun f hf => ?_) hresume
    obtain ⟨e, he, -⟩ := Work.mapError_eq_error_iff.mp hf
    exact Task.resumeM_eq_error he
  · cases h

/-- The same task while its code is being run, with the ticket that it is given. -/
def begun (s : Session) (t : Task) : Task :=
  ⟨{ t.block with ticket := some s.fleet.nextTicket }, .running⟩

/-- A task that is resumed for the first time starts its send. -/
theorem resumeTask_unstarted {t : Task} (hphase : t.phase = .unstarted) (s : Session) :
    resumeTask t s =
      match s.fleet.start t.block.monitor s.clock with
      | .error e => .error (.task (.block (.hook e))) s
      | .ok f => .ok (s.begun t, s.startRecords t.block.monitor) (s.withFleet f) := by
  simp only [resumeTask, Work.bind_apply, Work.get_apply, onFleet, Work.within, Work.mapError,
    Task.resumeM_eq, hphase]
  cases s.fleet.start t.block.monitor s.clock with
  | error e => rfl
  | ok f => rfl

/-- A task that was suspended goes on, which calls no hook. -/
theorem resumeTask_suspended {t : Task} (hphase : t.phase = .suspended) (s : Session) :
    resumeTask t s = .ok ({ t with phase := .running }, []) s := by
  simp only [resumeTask, Work.bind_apply, Work.get_apply, onFleet, Work.within, Work.mapError,
    Task.resumeM_eq, hphase]
  rfl

theorem finishTask_eq (t : Task) (success : Bool) (s : Session) : finishTask t success s =
    match t.block.ticket with
    | none => .error (.task (.block .notEntered)) s
    | some ticket =>
      match s.fleet.complete t.block.monitor ticket success none s.clock with
      | .error e => .error (.task (.block (.hook e))) s
      | .ok f =>
        .ok ({ t with phase := .ended }, false, s.leaveRecords t.block success)
          (s.withFleet f) := by
  simp only [finishTask, Work.bind_apply, Work.get_apply, onFleet, Work.within, Work.mapError,
    Task.finishM_eq]
  cases t.block.ticket with
  | none => rfl
  | some ticket =>
    dsimp only
    cases s.fleet.complete t.block.monitor ticket success none s.clock with
    | error e => rfl
    | ok f => rfl

theorem finishTask_eq_ok {t finished : Task} {success held : Bool}
    (h : finishTask t success s = .ok (finished, held, records) after) :
    ∃ f, t.finish success s.fleet s.clock = .ok (finished, f) ∧ after = s.withFleet f ∧
      held = false := by
  rw [finishTask, Work.get_bind_apply] at h
  obtain ⟨⟨ended, still⟩, left, hfinish, h⟩ := Work.bind_eq_ok_iff.mp h
  cases h
  obtain ⟨f, hf, rfl⟩ := onFleet_eq_ok_iff.mp hfinish
  have hf := Work.mapError_eq_ok_iff.mp hf
  obtain rfl := Task.held_of_finishM hf
  exact ⟨f, Task.finish_eq_ok_iff.mpr hf, rfl, rfl⟩

theorem finishTask_eq_error {t : Task} {success : Bool}
    (h : finishTask t success s = .error fault after) : after = s := by
  rw [finishTask_eq] at h
  split at h
  · cases h
    rfl
  · split at h
    · cases h
      rfl
    · cases h

theorem cancelTask_eq_ok {t cancelled : Task} {held : Bool}
    (h : cancelTask t s = .ok (cancelled, held, records) after) :
    ∃ f, t.cancel s.fleet s.clock = .ok (cancelled, f) ∧ after = s.withFleet f ∧
      held = false := by
  rw [cancelTask, Work.get_bind_apply] at h
  obtain ⟨⟨ended, still⟩, left, hcancel, h⟩ := Work.bind_eq_ok_iff.mp h
  cases h
  obtain ⟨f, hf, rfl⟩ := onFleet_eq_ok_iff.mp hcancel
  have hf := Work.mapError_eq_ok_iff.mp hf
  obtain rfl := Task.held_of_cancelM hf
  exact ⟨f, Task.cancel_eq_ok_iff.mpr hf, rfl, rfl⟩

theorem cancelTask_eq_error {t : Task} (h : cancelTask t s = .error fault after) : after = s := by
  rw [cancelTask, Work.get_bind_apply] at h
  obtain hcancel | ⟨given, left, -, h⟩ := Work.bind_eq_error_iff.mp h
  · refine onFleet_eq_error (fun f hf => ?_) hcancel
    obtain ⟨e, he, -⟩ := Work.mapError_eq_error_iff.mp hf
    exact Task.cancelM_eq_error he
  · cases h

end Around

/-- The call of a task that is known by a name, with its number. -/
theorem pendingCall_eq_ok {name : String} {number : Nat} {p : PendingCall}
    (h : s.pendingCall name = .ok (number, p)) : s.tasks[number]? = some p := by
  unfold pendingCall at h
  obtain ⟨found, -, h⟩ := bind_eq_ok_iff.mp h
  cases hp : s.tasks[found]? with
  | none => simp [hp] at h
  | some q =>
    simp only [hp] at h
    cases h
    exact hp

theorem resolve_eq_ok {handle : String} {monitor : Nat} (h : s.resolve handle = .ok monitor) :
    (handle, monitor) ∈ s.handles := by
  unfold resolve at h
  cases hnumber : s.monitorNumber? handle with
  | none => simp [hnumber] at h
  | some number =>
    rw [hnumber] at h
    cases h
    exact mem_of_lookup hnumber

theorem lookupName_eq_ok_iff {β : Type} {names : List (String × β)} {name : String} {thing : β} :
    lookupName names name = .ok thing ↔ names.lookup name = some thing := by
  unfold lookupName
  cases names.lookup name with
  | none => simp
  | some found => simp

section Perform

variable {β : Type} {w : Work Session StepFault β} {k : β → Work Session StepFault Answered}
  {given : β} {fault : StepFault}

theorem perform_bind_of_ok (h : w s = .ok given after) :
    s.perform (w >>= k) = after.perform (k given) := by
  rw [perform, perform, Work.bind_of_ok h]

theorem perform_bind_of_error (h : w s = .error fault after) :
    s.perform (w >>= k) = after.refuse fault := by
  rw [perform, Work.bind_of_error h]

@[simp] theorem perform_pure (s : Session) (answered : Answered) :
    s.perform (pure answered) = ⟨s, answered.reply, answered.records⟩ := rfl

theorem perform_get_bind (s : Session) (k : Session → Work Session StepFault Answered) :
    s.perform (get >>= k) = s.perform (k s) := by
  rw [perform, perform, Work.get_bind_apply]

theorem perform_ofExcept_bind (x : Except StepFault β) : s.perform (ofExcept x >>= k) =
    match x with
    | .error fault => s.refuse fault
    | .ok given => s.perform (k given) := by
  cases x with
  | error fault => exact perform_bind_of_error (Work.ofExcept_error fault s)
  | ok given => exact perform_bind_of_ok (Work.ofExcept_ok given s)

theorem session_perform (s : Session) (w : Work Session StepFault Answered) :
    (s.perform w).session = w.left s := by
  unfold perform Work.left
  cases w s with
  | ok answered left => rfl
  | error fault left => rfl

end Perform

/-- What the registry answers when it is asked for the monitor of a channel. -/
def asked (s : Session) (how : Request) (name : String) :
    Except (RegistryError Float) (Registry Float × Nat) :=
  match how with
  | .register => s.registry.register s.source name s.clock
  | .get => (s.registry.get name).map fun monitor => (s.registry, monitor)
  | .getOrRegister => s.registry.getOrRegister s.source name s.clock

section Asked

variable {how : Request} {name : String} {registry : Registry Float} {monitor : Nat}

theorem asked_get_eq_ok_iff : s.asked .get name = .ok (registry, monitor) ↔
    registry = s.registry ∧ s.registry.find? name = some monitor := by
  unfold asked
  rw [map_eq_ok_iff]
  constructor
  · rintro ⟨number, hget, heq⟩
    cases heq
    exact ⟨rfl, Registry.get_eq_ok_iff.mp hget⟩
  · rintro ⟨rfl, hfind⟩
    exact ⟨monitor, Registry.get_eq_ok_iff.mpr hfind, rfl⟩

theorem asked_getOrRegister_eq_ok_iff {result : Registry Float × Nat} :
    s.asked .getOrRegister name = .ok result ↔
      s.asked .get name = .ok result ∨ s.asked .register name = .ok result := by
  obtain ⟨registry, monitor⟩ := result
  rw [asked_get_eq_ok_iff, and_comm]
  exact Registry.getOrRegister_eq_ok_iff

/-- A channel that is given out was there, or it is registered. -/
theorem asked_eq_ok_cases (h : s.asked how name = .ok (registry, monitor)) :
    (registry = s.registry ∧ s.registry.find? name = some monitor) ∨
      s.asked .register name = .ok (registry, monitor) := by
  cases how with
  | register => exact .inr h
  | get => exact .inl (asked_get_eq_ok_iff.mp h)
  | getOrRegister =>
    obtain hget | hregister := asked_getOrRegister_eq_ok_iff.mp h
    · exact .inl (asked_get_eq_ok_iff.mp hget)
    · exact .inr hregister

/-- The registry is as it was if it refuses what it is asked for. -/
theorem work_eq (how : Request) (s : Session) (name : String) :
    how.work s.source name s.clock s.registry =
      match s.asked how name with
      | .ok (registry, monitor) => .ok monitor registry
      | .error e => .error e s.registry := by
  cases how with
  | register =>
    simp only [asked, Registry.register, Request.work, Work.result]
    cases h : Registry.registerM s.source name s.clock s.registry with
    | ok monitor registry => rfl
    | error e registry => rw [Registry.registerM_eq_error h]
  | get =>
    simp only [asked, Request.work, Registry.getM, Work.get_bind_apply]
    cases s.registry.get name with
    | ok monitor => rfl
    | error e => rfl
  | getOrRegister =>
    simp only [asked, Registry.getOrRegister, Request.work, Work.result]
    cases h : Registry.getOrRegisterM s.source name s.clock s.registry with
    | ok monitor registry => rfl
    | error e registry => rw [Registry.getOrRegisterM_eq_error h]

theorem request_of_error {e : RegistryError Float} (h : s.asked how name = .error e)
    (handle : Option String) :
    s.perform (request how name handle) = s.refuse (.registry e) := by
  have hwork : onRegistry ((how.work s.source name s.clock).mapError .registry) s =
      .error (.registry e) s := by
    rw [onRegistry, Work.within, Work.mapError, work_eq, h]
  rw [request, perform_get_bind, perform_bind_of_error hwork]

theorem request_of_ok (h : s.asked how name = .ok (registry, monitor)) (handle : Option String) :
    ∃ records, s.perform (request how name handle) =
      { s with registry }.perform (present monitor (handle.getD name) records) := by
  have hwork : onRegistry ((how.work s.source name s.clock).mapError .registry) s =
      .ok monitor { s with registry } := by
    rw [onRegistry, Work.within, Work.mapError, work_eq, h]
  rw [request, perform_get_bind, perform_bind_of_ok hwork, perform_get_bind]
  exact ⟨_, rfl⟩

/-- Showing a monitor does nothing but to give it a handle. -/
theorem session_present (s : Session) (monitor : Nat) (handle : String)
    (records : List Log.Record) : (s.perform (present monitor handle records)).session =
      { s with handles := give s.handles handle monitor } := by
  rw [present, perform_get_bind, perform_bind_of_ok (Work.modify_apply _ s)]
  cases s.monitorAt? monitor with
  | none => rfl
  | some m => rfl

theorem fault?_present (s : Session) (monitor : Nat) (handle : String)
    (records : List Log.Record) :
    (s.perform (present monitor handle records)).reply.fault? = none := by
  rw [present, perform_get_bind, perform_bind_of_ok (Work.modify_apply _ s)]
  cases s.monitorAt? monitor with
  | none => rfl
  | some m => rfl

/-- A monitor is made, or the settings or the constructor refuse it. -/
theorem newMonitor_cases (s : Session) (name : String) (given : Option GivenSettings)
    (handle : Option String) :
    (∃ fault, s.perform (newMonitor name given handle) = s.refuse fault) ∨
    (∃ settings m, Monitor.create name settings s.clock = .ok m ∧
      s.perform (newMonitor name given handle) =
        (s.withFleet (s.fleet.add m)).perform
          (present s.fleet.nextMonitor (handle.getD name) [])) := by
  rw [newMonitor, perform_get_bind]
  dsimp only
  cases hgiven : (given.map fun g => g.fill.check).getD (.ok Settings.standard) with
  | error e =>
    rw [mapError_error, perform_bind_of_error (Work.ofExcept_error _ s)]
    exact .inl ⟨.settings e, rfl⟩
  | ok settings =>
    rw [mapError_ok, perform_bind_of_ok (Work.ofExcept_ok settings s)]
    cases hcreate : Monitor.create name settings s.clock with
    | error e =>
      have hmake : onRegistry ((Registry.makeM name settings s.clock).mapError .history) s =
          .error (.history e) s := by
        rw [onRegistry, Work.within, Work.mapError, Registry.makeM_eq, hcreate]
      rw [perform_bind_of_error hmake]
      exact .inl ⟨.history e, rfl⟩
    | ok m =>
      have hmake : onRegistry ((Registry.makeM name settings s.clock).mapError .history) s =
          .ok s.fleet.nextMonitor (s.withFleet (s.fleet.add m)) := by
        rw [onRegistry, Work.within, Work.mapError, Registry.makeM_eq, hcreate]
        rfl
      rw [perform_bind_of_ok hmake]
      exact .inr ⟨settings, m, hcreate, rfl⟩

end Asked

theorem session_shutdown (s : Session) :
    s.shutdown.session = { s with registry := s.registry.close } := by
  unfold shutdown
  dsimp only
  split
  · rfl
  · rfl

namespace Step

theorem cost_pos (step : Step) : 0 < cost step := by
  cases step with
  | call c => exact Nat.add_pos_left (by decide) _
  | newTask name c => exact Nat.add_pos_left (by decide) _
  | again times steps => exact Nat.add_pos_left (by decide) _
  | _ => exact Nat.succ_pos _

theorem length_lt_costs (steps : List Step) : steps.length < costs steps := by
  induction steps with
  | nil => decide
  | cons step steps ih =>
    have hpos := cost_pos step
    rw [costs, List.length_cons]
    omega

theorem costs_pos (steps : List Step) : 0 < costs steps :=
  Nat.lt_of_le_of_lt (Nat.zero_le _) (length_lt_costs steps)

end Step

/-- Steps that only look at the session. -/
def Step.reads : Step → Bool
  | .proxyInfo _ _ _ => true
  | .proxyAttribute _ _ _ => true
  | .snapshot _ => true
  | .stats _ => true
  | .allStats => true
  | .describe _ => true
  | .destroy _ => true
  | .names => true
  | .contains _ => true
  | .size => true
  | _ => false

theorem left_get_bind {g : Session → Work Session StepFault Answered}
    (h : (g s).left s = s) : Work.left (get >>= g) s = s := by
  rw [Work.left, Work.get_bind_apply]
  exact h

section Looks

variable (s : Session)

theorem left_proxyInfo (handle channel : String) (isAsync : Bool) :
    (proxyInfo handle channel isAsync).left s = s :=
  left_get_bind <| Work.left_bind (Work.left_ofExcept _ s) fun _ => rfl

theorem left_proxyAttribute (handle channel key : String) :
    (proxyAttribute handle channel key).left s = s := by
  refine left_get_bind <| Work.left_bind (Work.left_ofExcept _ s) fun _ => ?_
  dsimp only
  cases (Channel.named channel false).proxyAttribute? key with
  | none => rfl
  | some a => rfl

theorem left_snapshotOf (handle : String) : (snapshotOf handle).left s = s :=
  left_get_bind <| Work.left_bind (Work.left_ofExcept _ s) fun _ =>
    Work.left_bind (Work.left_ofExcept _ s) fun _ => rfl

theorem left_statsOf (name : String) : (statsOf name).left s = s := by
  refine left_get_bind <| Work.left_bind (Work.left_ofExcept _ s) fun number => ?_
  cases s.monitorAt? number with
  | none => rfl
  | some m => exact Work.left_bind (Work.left_ofExcept _ s) fun _ => rfl

theorem left_allStats : allStats.left s = s :=
  left_get_bind <| Work.left_bind (Work.left_ofExcept _ s) fun _ => rfl

theorem left_describe (handle : String) : (describe handle).left s = s :=
  left_get_bind <| Work.left_bind (Work.left_ofExcept _ s) fun _ => rfl

theorem left_destroy (handle : String) : (destroy handle).left s = s := by
  refine left_get_bind <| Work.left_bind (Work.left_ofExcept _ s) fun m => ?_
  split
  · rfl
  · rfl

theorem session_simpleStep_of_reads {s : Session} {step : Step} (hreads : step.reads = true) :
    (s.simpleStep step).session = s := by
  cases step with
  | proxyInfo handle channel isAsync =>
    exact (session_perform s _).trans (left_proxyInfo s handle channel isAsync)
  | proxyAttribute handle channel key =>
    exact (session_perform s _).trans (left_proxyAttribute s handle channel key)
  | snapshot handle => exact (session_perform s _).trans (left_snapshotOf s handle)
  | stats name => exact (session_perform s _).trans (left_statsOf s name)
  | allStats => exact (session_perform s _).trans (left_allStats s)
  | describe handle => exact (session_perform s _).trans (left_describe s handle)
  | destroy handle => exact (session_perform s _).trans (left_destroy s handle)
  | names => rfl
  | contains name => rfl
  | size => rfl
  | _ => cases hreads

theorem perform_snapshotOf {handle : String} {m : Monitor Float} (hm : s.monitor? handle = some m) :
    s.perform (snapshotOf handle) =
      match s.fieldsOf m with
      | .error fault => s.refuse fault
      | .ok fields => ⟨s, .fields fields, []⟩ := by
  simp only [snapshotOf, perform_get_bind, resolveMonitor, hm, perform_ofExcept_bind, perform_pure]
  cases s.fieldsOf m with
  | error fault => rfl
  | ok fields => rfl

theorem perform_statsOf_of_none {name : String} (hfind : s.registry.find? name = none) :
    s.perform (statsOf name) = s.refuse (.registry (.unknown name)) := by
  simp only [statsOf, perform_get_bind, Registry.get, hfind, perform_ofExcept_bind, mapError_error]

theorem perform_statsOf {name : String} {monitor : Nat} {m : Monitor Float}
    (hfind : s.registry.find? name = some monitor) (hm : s.monitorAt? monitor = some m) :
    s.perform (statsOf name) =
      match s.fieldsOf m with
      | .error fault => s.refuse fault
      | .ok fields => ⟨s, .fields fields, []⟩ := by
  simp only [statsOf, perform_get_bind, Registry.get, hfind, hm, perform_ofExcept_bind, mapError_ok,
    perform_pure]
  cases s.fieldsOf m with
  | error fault => rfl
  | ok fields => rfl

theorem perform_allStats : s.perform allStats =
    match s.registry.registered.mapM (fun m => do return (m.name, ← s.fieldsOf m)) with
    | .error fault => s.refuse fault
    | .ok rows => ⟨s, .table rows, []⟩ := by
  simp only [allStats, perform_get_bind, perform_ofExcept_bind, perform_pure]
  cases s.registry.registered.mapM (fun m => do return (m.name, ← s.fieldsOf m)) with
  | error fault => rfl
  | ok rows => rfl

theorem perform_destroy {handle : String} {m : Monitor Float} (hm : s.monitor? handle = some m) :
    s.perform (destroy handle) =
      match m.closingRecords s.stamp s.clock with
      | (records, none) => ⟨s, .nothing, records⟩
      | (records, some e) => ⟨s, .failed (.reading e), records⟩ := by
  simp only [destroy, perform_get_bind, resolveMonitor, hm, perform_ofExcept_bind]
  generalize m.closingRecords s.stamp s.clock = closing
  obtain ⟨records, fault⟩ := closing
  cases fault with
  | none => rfl
  | some e => rfl

end Looks

end SendMeter.Session
