import SendMeter.Proofs.Registry.OrderedMap
import SendMeter.Proofs.Session.Quiet

namespace SendMeter.Session

/-- What happens to the names of a registry. -/
inductive Deed where
  | registered (name : String) (monitor : Nat)
  | closed
deriving DecidableEq, Repr

/-- The channels of a registry after a deed. -/
def note (channels : List (String × Nat)) : Deed → List (String × Nat)
  | .registered name monitor => channels ++ [(name, monitor)]
  | .closed => []

/-- The channels that were registered since the registry was closed for the last time. -/
def standing (deeds : List Deed) : List (String × Nat) :=
  deeds.foldl note []

/-- What a step does to the names: a name that was not there is given a monitor, or the registry is
closed. -/
def deedsOf (s : Session) : Step → List Deed
  | .request how name _ =>
    match s.asked how name with
    | .error _ => []
    | .ok (_, monitor) => if s.registry.contains name then [] else [.registered name monitor]
  | .shutdown => [.closed]
  | _ => []

/-- The deeds of a sequence of steps. -/
def deeds (s : Session) : List Step → List Deed
  | [] => []
  | step :: steps => s.deedsOf step ++ (s.simpleStep step).session.deeds steps

variable {s : Session} {how : Request} {name : String} {registry : Registry Float} {monitor : Nat}

theorem simpleStep_request_of_error {e : RegistryError Float} (h : s.asked how name = .error e)
    (handle : Option String) :
    s.simpleStep (.request how name handle) = s.refuse (.registry e) :=
  request_of_error h handle

theorem session_request_of_ok (h : s.asked how name = .ok (registry, monitor))
    (handle : Option String) :
    (s.simpleStep (.request how name handle)).session =
      { s with registry, handles := give s.handles (handle.getD name) monitor } := by
  show (s.perform (request how name handle)).session = _
  obtain ⟨records, hrequest⟩ := request_of_ok h handle
  rw [hrequest]
  exact session_present _ _ _ _

/-- A task that is ended from outside leaves the names of the registry alone. -/
theorem channels_cancels {s' : Session} {task : Nat} (h : Cancels s s' task) :
    s'.registry.channels = s.registry.channels := by
  obtain ⟨p, t, f, -, -, rfl⟩ := h
  rfl

/-- Steps that are no requests and do not close the registry leave its names alone, whether or not
they fail. -/
theorem channels_of_refusedOr {d : Done} {holds : Session → Prop} (h : d.RefusedOr s holds)
    (hdone : ∀ s', holds s' → s'.registry.channels = s.registry.channels) :
    d.session.registry.channels = s.registry.channels := by
  obtain ⟨fault, rfl⟩ | ⟨-, hholds⟩ := h
  · rfl
  · exact hdone _ hholds

theorem contains_eq_isSome (s : Session) (name : String) :
    s.registry.contains name = (s.registry.find? name).isSome := rfl

/-- Each step changes the names by its deeds. -/
theorem channels_simpleStep (s : Session) (step : Step) :
    (s.simpleStep step).session.registry.channels =
      (s.deedsOf step).foldl note s.registry.channels := by
  have hread (hreads : step.reads = true) (hnone : s.deedsOf step = []) :
      (s.simpleStep step).session.registry.channels =
        (s.deedsOf step).foldl note s.registry.channels := by
    rw [session_simpleStep_of_reads hreads, hnone]
    rfl
  cases step with
  | request how name handle =>
    cases h : s.asked how name with
    | error e =>
      rw [simpleStep_request_of_error h]
      simp only [deedsOf, h]
      rfl
    | ok result =>
      obtain ⟨registry, monitor⟩ := result
      rw [session_request_of_ok h]
      simp only [deedsOf, h]
      obtain ⟨rfl, hfind⟩ | hregister := asked_eq_ok_cases h
      · rw [if_pos (by rw [contains_eq_isSome, hfind]; rfl)]
        rfl
      · obtain ⟨-, htaken, -, settings, m, -, -, rfl⟩ :=
          Registry.register_eq_ok_iff.mp hregister
        rw [← Registry.contains_iff] at htaken
        rw [if_neg htaken]
        rfl
  | shutdown =>
    show s.shutdown.session.registry.channels = []
    rw [session_shutdown]
    rfl
  | newMonitor name given handle =>
    refine channels_of_refusedOr (newMonitor_turn s name given handle) ?_
    rintro s' ⟨settings, m, -, rfl⟩
    rfl
  | start handle ticket =>
    refine channels_of_refusedOr (startSend_turn s handle ticket) ?_
    rintro s' ⟨monitor, f, -, -, rfl⟩
    rfl
  | complete handle ticket success given =>
    refine channels_of_refusedOr (completeSend_turn s handle ticket success given) ?_
    rintro s' ⟨number, monitor, -, -, ⟨e, -, rfl⟩ | ⟨f, -, rfl⟩⟩
    · rfl
    · rfl
  | newBlock block handle =>
    refine channels_of_refusedOr (newBlock_turn s block handle) ?_
    rintro s' ⟨monitor, -, rfl⟩
    rfl
  | enter block =>
    refine channels_of_refusedOr (enterNamed_turn s block) ?_
    rintro s' ⟨b, f, -, -, rfl⟩
    rfl
  | leave block success =>
    refine channels_of_refusedOr (leaveNamed_turn s block success) ?_
    rintro s' ⟨b, ticket, f, -, -, -, rfl⟩
    rfl
  | newTask task c =>
    refine channels_of_refusedOr (newTask_turn s task c) ?_
    rintro s' ⟨monitor, -, rfl | ⟨old, -, hcancels⟩⟩
    · rfl
    · exact (channels_cancels hcancels).trans rfl
  | throwInto task error =>
    refine channels_of_refusedOr (throwInto_turn s task error) ?_
    rintro s' (rfl | ⟨number, p, -, hcancels, -⟩)
    · rfl
    · exact channels_cancels hcancels
  | closeTask task =>
    refine channels_of_refusedOr (closeTask_turn s task) ?_
    rintro s' (rfl | ⟨number, p, -, hcancels⟩)
    · rfl
    · exact channels_cancels hcancels
  | advance seconds => rfl
  | setClock reading => rfl
  | call c => rfl
  | stepTask task => rfl
  | finishTask task => rfl
  | again times steps => rfl
  | _ => exact hread rfl rfl

theorem channels_afterSteps (s : Session) (steps : List Step) :
    (s.afterSteps steps).registry.channels = (s.deeds steps).foldl note s.registry.channels := by
  induction steps generalizing s with
  | nil => rfl
  | cons step steps ih =>
    show ((s.simpleStep step).session.afterSteps steps).registry.channels = _
    rw [ih, channels_simpleStep, deeds, List.foldl_append]

end SendMeter.Session
