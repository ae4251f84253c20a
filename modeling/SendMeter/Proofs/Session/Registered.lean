import SendMeter.Proofs.Session.OrderedRegistry

namespace SendMeter.Session

variable {s s' : Session} {ρ : Type}

/-- A hook on any monitor leaves the registry well kept. -/
theorem wellKept_withFleet (h : s.registry.WellKept) (hook : Hook Float) {f : Fleet Float}
    (hhook : s.fleet.apply hook = .ok f) : (s.withFleet f).registry.WellKept :=
  h.of_keepsNames rfl (Fleet.keepsNames_of_apply hhook)

section Send

theorem wellKept_resumeTask (h : s.registry.WellKept) {t resumed : Task}
    {records : List Log.Record} (h' : resumeTask t s = .ok (resumed, records) s') :
    s'.registry.WellKept := by
  obtain ⟨f, hresume, rfl⟩ := resumeTask_eq_ok h'
  obtain ⟨-, -, rfl⟩ | ⟨-, hstart, -⟩ := Task.resume_eq_ok hresume
  · exact h
  · exact wellKept_withFleet h (.start t.block.monitor s.clock) hstart

theorem wellKept_finishTask (h : s.registry.WellKept) {t finished : Task} {success held : Bool}
    {records : List Log.Record} (h' : finishTask t success s = .ok (finished, held, records) s') :
    s'.registry.WellKept := by
  obtain ⟨f, hfinish, rfl, -⟩ := finishTask_eq_ok h'
  obtain ⟨ticket, -, hcomplete, -⟩ := Task.finish_eq_ok hfinish
  exact wellKept_withFleet h (.complete t.block.monitor ticket success none s.clock) hcomplete

/-- A send leaves the registry well kept if its code does, also if one of its hooks is refused. -/
theorem wellKept_send (hs : s.Orderly) (h : s.registry.WellKept) {code : Code ρ}
    (hcode : ∀ s : Session, s.Orderly → s.registry.WellKept → (code s).1.registry.WellKept)
    (path : Path) (channel : String) (monitor : Nat) :
    ((send path channel monitor code).left s).registry.WellKept := by
  rw [left_send]
  cases hsend : sendByHooks monitor code s with
  | error e left =>
    rw [Work.left_of_error hsend]
    obtain ⟨-, rfl⟩ | ⟨started, given, ending, hstart, hran, -⟩ := sendByHooks_eq_error hsend
    · exact h
    · have hran := congrArg (·.1) hran
      dsimp only at hran
      rw [← hran]
      exact hcode _ (hs.leadsBy_start hstart).1.orderly
        (wellKept_withFleet h (.start monitor s.clock) hstart)
  | ok handedOut left =>
    obtain ⟨given, ending⟩ := handedOut
    rw [Work.left_of_ok hsend]
    obtain ⟨started, ran, completed, hstart, hran, hcomplete, rfl⟩ := sendByHooks_eq_ok hsend
    have hkept := hcode _ (hs.leadsBy_start hstart).1.orderly
      (wellKept_withFleet h (.start monitor s.clock) hstart)
    rw [hran] at hkept
    exact wellKept_withFleet hkept (.complete monitor s.fleet.nextTicket ending.succeeds none
      ran.clock) hcomplete

end Send

-- The induction is on the fuel, as for the chains of moves.
mutual

theorem wellKept_runStep (fuel : Nat) {s : Session} (hs : s.Orderly) (h : s.registry.WellKept)
    (step : Step) : (s.runStep fuel step).1.registry.WellKept := by
  cases fuel with
  | zero => exact h
  | succ fuel =>
    cases step with
    | call c => exact wellKept_runCall fuel hs h c
    | stepTask task => exact wellKept_runTask fuel hs h task false
    | finishTask task => exact wellKept_runTask fuel hs h task true
    | again times steps => exact wellKept_runAgain fuel hs h times steps
    | _ => exact wellKept_simpleStep hs h _
termination_by fuel

theorem wellKept_runSteps (fuel : Nat) {s : Session} (hs : s.Orderly) (h : s.registry.WellKept)
    (steps : List Step) : (s.runSteps fuel steps).1.registry.WellKept := by
  cases fuel with
  | zero => exact h
  | succ fuel =>
    cases steps with
    | nil => exact h
    | cons step steps =>
      exact wellKept_runSteps fuel (leads_runStep fuel hs step).orderly
        (wellKept_runStep fuel hs h step) steps
termination_by fuel

theorem wellKept_runUntil (fuel : Nat) {s : Session} (hs : s.Orderly) (h : s.registry.WellKept)
    (steps : List Step) : (s.runUntil fuel steps).1.registry.WellKept := by
  cases fuel with
  | zero => exact h
  | succ fuel =>
    cases steps with
    | nil => exact h
    | cons step steps =>
      have hstep := wellKept_runStep fuel hs h step
      simp only [runUntil]
      split
      · exact hstep
      · exact wellKept_runUntil fuel (leads_runStep fuel hs step).orderly hstep steps
termination_by fuel

theorem wellKept_runAgain (fuel : Nat) {s : Session} (hs : s.Orderly) (h : s.registry.WellKept)
    (times : Nat) (steps : List Step) : (s.runAgain fuel times steps).1.registry.WellKept := by
  cases fuel with
  | zero => exact h
  | succ fuel =>
    cases times with
    | zero => exact h
    | succ times =>
      have horderly := (leads_runUntil fuel hs steps).orderly
      have hpass := wellKept_runUntil fuel hs h steps
      simp only [runAgain]
      split
      next hstopped =>
        rw [hstopped] at hpass
        exact hpass
      next hended =>
        rw [hended] at horderly hpass
        exact wellKept_runAgain fuel horderly hpass times steps
termination_by fuel

theorem wellKept_runCall (fuel : Nat) {s : Session} (hs : s.Orderly) (h : s.registry.WellKept)
    (c : Call Step) : (s.runCall fuel c).1.registry.WellKept := by
  cases fuel with
  | zero => exact h
  | succ fuel =>
    simp only [runCall]
    split
    · exact h
    next monitor _ =>
      have hcode (s : Session) (hs : s.Orderly) (h : s.registry.WellKept) :
          (runSteps fuel (s.advanceBy c.advance) c.body).1.registry.WellKept :=
        wellKept_runSteps fuel (hs.leadsBy_advanceBy c.advance).orderly h c.body
      split
      next hsent =>
        rw [← Work.left_of_error hsent]
        exact wellKept_send hs h hcode c.path c.channel monitor
      next hsent =>
        rw [← Work.left_of_ok hsent]
        exact wellKept_send hs h hcode c.path c.channel monitor
termination_by fuel

theorem wellKept_runTask (fuel : Nat) {s : Session} (hs : s.Orderly) (h : s.registry.WellKept)
    (name : String) (toEnd : Bool) : (s.runTask fuel name toEnd).1.registry.WellKept := by
  cases fuel with
  | zero => exact h
  | succ fuel =>
    simp only [runTask]
    split
    · exact h
    next number p hcall =>
      split
      next hrefused =>
        rw [resumeTask_eq_error hrefused]
        exact h
      next hrefused =>
        rw [resumeTask_eq_error hrefused]
        exact h
      next t records resumed hresume =>
        have hresumed := wellKept_resumeTask h hresume
        split
        · exact hresumed
        · have horderly := (hs.leadsBy_resumeTask (pendingCall_eq_ok hcall) hresume).1.orderly
          have hbody := wellKept_runSteps fuel (horderly.leadsBy_advanceBy p.call.advance).orderly
            hresumed p.call.body
          split
          next hrefused =>
            rw [finishTask_eq_error hrefused]
            exact hbody
          next finished hfinish =>
            exact (wellKept_finishTask hbody hfinish : finished.registry.WellKept)
termination_by fuel

end

/-- In every run, names are distinct and not empty, and each of them is that of its own monitor. -/
theorem wellKept_run (clock : Float) (source : SettingsSource Float) (stamp : Json)
    (steps : List Step) : ((start clock source stamp).run steps).1.registry.WellKept :=
  wellKept_runSteps _ (orderly_start clock source stamp) (.of_channels_eq_nil rfl) steps

end SendMeter.Session
