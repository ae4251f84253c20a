import SendMeter.Proofs.Session.Nesting
import SendMeter.Proofs.Session.Runs

namespace SendMeter.Session

variable {s : Session}

/-- Steps that call no hook: time goes by, names and monitors are given out, the registry is asked
or closed, or the session is only looked at. -/
def Step.isQuiet : Step → Bool
  | .advance _ => true
  | .setClock _ => true
  | .request _ _ _ => true
  | .newMonitor _ _ _ => true
  | .newBlock _ _ => true
  | .shutdown => true
  | step => step.reads

theorem move_of_isQuiet (s : Session) {step : Step} (hquiet : step.isQuiet = true) :
    Move s (s.simpleStep step).session [] := by
  have hread (hreads : step.reads = true) : Move s (s.simpleStep step).session [] := by
    rw [session_simpleStep_of_reads hreads]
    exact .idle rfl rfl
  cases step with
  | advance seconds => exact .idle rfl rfl
  | setClock reading => exact .idle rfl rfl
  | request how name handle =>
    show Move s (s.perform (request how name handle)).session []
    obtain ⟨fault, h⟩ | ⟨-, registry, monitor, hasked, h⟩ := request_turn s how name handle
    · rw [h]
      exact .idle rfl rfl
    · rw [h]
      obtain ⟨rfl, -⟩ | hregister := asked_eq_ok_cases hasked
      · exact .idle rfl rfl
      · obtain ⟨-, -, -, settings, m, -, hcreate, rfl⟩ :=
          Registry.register_eq_ok_iff.mp hregister
        exact .monitor hcreate rfl rfl
  | newMonitor name given handle =>
    show Move s (s.perform (newMonitor name given handle)).session []
    obtain ⟨fault, h⟩ | ⟨-, settings, m, hcreate, h⟩ := newMonitor_turn s name given handle
    · rw [h]
      exact .idle rfl rfl
    · rw [h]
      exact .monitor hcreate rfl rfl
  | newBlock block handle =>
    show Move s (s.perform (newBlock block handle)).session []
    obtain ⟨fault, h⟩ | ⟨-, monitor, -, h⟩ := newBlock_turn s block handle
    · rw [h]
      exact .idle rfl rfl
    · rw [h]
      exact .idle rfl rfl
  | shutdown =>
    show Move s s.shutdown.session []
    rw [session_shutdown]
    exact .idle rfl rfl
  | _ => exact hread hquiet

theorem reaches_afterSteps {steps : List Step} (hquiet : ∀ step ∈ steps, step.isQuiet = true)
    (s : Session) : Reaches s [] (s.afterSteps steps) := by
  induction steps generalizing s with
  | nil => exact .refl
  | cons step steps ih =>
    have hmove := s.move_of_isQuiet (hquiet step List.mem_cons_self)
    exact hmove.reaches.trans (ih (fun step hstep => hquiet step (List.mem_cons_of_mem _ hstep)) _)

end SendMeter.Session
