import SendMeter.Proofs.Session.Accounts
import SendMeter.Proofs.Session.Names

namespace SendMeter

/-- Either all elements are mapped, or one of them stops it. -/
theorem mapM_cases {ε β γ : Type} (f : β → Except ε γ) (xs : List β) :
    (∃ ys, xs.mapM f = .ok ys ∧ List.Forall₂ (fun x y => f x = .ok y) xs ys) ∨
      ∃ x ∈ xs, ∃ e, f x = .error e ∧ xs.mapM f = .error e := by
  induction xs with
  | nil => exact .inl ⟨[], rfl, .nil⟩
  | cons x xs ih =>
    rw [List.mapM_cons]
    cases hx : f x with
    | error e => exact .inr ⟨x, List.mem_cons_self, e, hx, rfl⟩
    | ok y =>
      obtain ⟨ys, hys, hall⟩ | ⟨x', hmem, e, he, herror⟩ := ih
      · refine .inl ⟨y :: ys, ?_, .cons hx hall⟩
        rw [hys]
        rfl
      · refine .inr ⟨x', List.mem_cons_of_mem x hmem, e, he, ?_⟩
        rw [herror]
        rfl

/-- A monitor without sends can be read. -/
theorem Monitor.exists_snapshot_of_create {name : String} {settings : Settings Float}
    {created : Float} {m : Monitor Float} (h : Monitor.create name settings created = .ok m)
    (now : Float) : ∃ snapshot, m.snapshot now = .ok snapshot := by
  obtain ⟨durations, sends, failures, outcomes, -, hsends, hfailures, -, rfl⟩ := create_eq_ok h
  have hmean {r : Rate Float}
      (hr : Rate.create settings.window settings.periodUnit settings.averagingPeriod none created =
        .ok r) : r.mean now = .ok Scalar.zero := by
    obtain ⟨average, haverage, -, -, -, rfl⟩ := Rate.create_eq_ok hr
    obtain ⟨-, alpha, -, rfl⟩ := Average.create_eq_ok haverage
    rfl
  refine ⟨_, bind_eq_ok_iff.mpr ⟨_, hmean hsends, bind_eq_ok_iff.mpr ⟨_, hmean hfailures, rfl⟩⟩⟩

namespace Session

variable {s s' : Session} {events new : List Event}

section Reached

theorem Move.keepsNames (h : Move s s' new) : s.fleet.KeepsNames s'.fleet := by
  obtain ⟨-, hfleet | ⟨name, settings, m, -, hfleet⟩⟩ | ⟨hook, -, hhook⟩ := h.fleet_cases
  · rw [hfleet]
    exact .refl _
  · rw [hfleet]
    exact .add _ m
  · exact Fleet.keepsNames_of_apply hhook

theorem Reaches.keepsNames (h : Reaches s events s') : s.fleet.KeepsNames s'.fleet := by
  induction h with
  | refl => exact .refl _
  | tail _ hmove ih => exact ih.trans hmove.keepsNames

theorem leads_afterSteps (hs : s.Orderly) (steps : List Step) : Leads s (s.afterSteps steps) := by
  induction steps generalizing s with
  | nil => exact .refl hs
  | cons step steps ih =>
    have hstep := leads_simpleStep hs step
    exact hstep.trans (ih hstep.orderly)

theorem wellKept_simpleStep (hs : s.Orderly) (h : s.registry.WellKept) (step : Step) :
    (s.simpleStep step).session.registry.WellKept := by
  obtain ⟨events, hreaches⟩ := (leads_simpleStep hs step).reaches
  have hchannels := channels_simpleStep s step
  have hsame (hnone : s.deedsOf step = []) :
      (s.simpleStep step).session.registry.WellKept := by
    rw [hnone] at hchannels
    exact h.of_keepsNames hchannels hreaches.keepsNames
  cases step with
  | request how name handle =>
    cases hasked : s.asked how name with
    | error e => exact hsame (by simp only [deedsOf, hasked])
    | ok result =>
      obtain ⟨registry, monitor⟩ := result
      rw [session_request_of_ok hasked]
      obtain ⟨rfl, -⟩ | hregister := asked_eq_ok_cases hasked
      · exact h
      · exact h.register hregister
  | shutdown => exact .of_channels_eq_nil hchannels
  | _ => exact hsame rfl

theorem wellKept_afterSteps (hs : s.Orderly) (h : s.registry.WellKept) (steps : List Step) :
    (s.afterSteps steps).registry.WellKept := by
  induction steps generalizing s with
  | nil => exact h
  | cons step steps ih =>
    exact ih (leads_simpleStep hs step).orderly (wellKept_simpleStep hs h step)

end Reached

/-- What the registry shows when it is looked at: the names in their order, and the statistics of
each channel under its name, unless a monitor cannot be read. Looking changes nothing. -/
structure Shows (s : Session) : Prop where
  names : s.simpleStep .names = ⟨s, .names s.registry.names, []⟩
  size : s.simpleStep .size = ⟨s, .count s.registry.names.length, []⟩
  contains : ∀ name,
    s.simpleStep (.contains name) = ⟨s, .flag (decide (name ∈ s.registry.names)), []⟩
  allStats : (∃ rows, s.simpleStep .allStats = ⟨s, .table rows, []⟩ ∧
      rows.map (·.1) = s.registry.names ∧
      List.Forall₂ (fun m row => s.fieldsOf m = .ok row.2) s.registry.registered rows) ∨
    ∃ m ∈ s.registry.registered, ∃ e, m.snapshot s.clock = .error e ∧
      s.simpleStep .allStats = s.refuse (.reading e)
  stats : ∀ name,
    (name ∉ s.registry.names ∧ s.simpleStep (.stats name) = s.refuse (.registry (.unknown name))) ∨
    ∃ monitor m, (name, monitor) ∈ s.registry.channels ∧ s.fleet.monitors[monitor]? = some m ∧
      ((∃ snapshot, m.snapshot s.clock = .ok snapshot ∧
          s.simpleStep (.stats name) = ⟨s, .fields snapshot.fields, []⟩) ∨
        ∃ e, m.snapshot s.clock = .error e ∧ s.simpleStep (.stats name) = s.refuse (.reading e))

/-- How the registry answers when it is asked for a channel. -/
structure Answers (s : Session) (name : String) : Prop where
  get : ∀ registry monitor, s.asked .get name = .ok (registry, monitor) ↔
    registry = s.registry ∧ (name, monitor) ∈ s.registry.channels
  /-- A new channel comes last, with a new monitor. -/
  register : ∀ registry monitor, s.asked .register name = .ok (registry, monitor) ↔
    name ≠ "" ∧ name ∉ s.registry.names ∧ monitor = s.fleet.nextMonitor ∧
      ∃ settings m, s.source name = .ok settings ∧
        Monitor.create name settings s.clock = .ok m ∧
        registry = ⟨s.fleet.add m, s.registry.channels ++ [(name, monitor)]⟩
  getOrRegister : ∀ result, s.asked .getOrRegister name = .ok result ↔
    s.asked .get name = .ok result ∨ s.asked .register name = .ok result
  /-- An answer is kept, and is given again when the channel is asked for again. -/
  granted : ∀ how registry monitor handle, s.asked how name = .ok (registry, monitor) →
    (s.simpleStep (.request how name handle)).session =
      { s with registry, handles := give s.handles (handle.getD name) monitor } ∧
    (s.simpleStep (.request how name handle)).session.asked .getOrRegister name =
      .ok (registry, monitor)
  refused : ∀ how e handle, s.asked how name = .error e →
    s.simpleStep (.request how name handle) = s.refuse (.registry e)

theorem fieldsOf_cases (s : Session) (m : Monitor Float) :
    (∃ snapshot, m.snapshot s.clock = .ok snapshot ∧ s.fieldsOf m = .ok snapshot.fields) ∨
      ∃ e, m.snapshot s.clock = .error e ∧ s.fieldsOf m = .error (.reading e) := by
  unfold fieldsOf
  cases m.snapshot s.clock with
  | error e => exact .inr ⟨e, rfl, rfl⟩
  | ok snapshot => exact .inl ⟨snapshot, rfl, rfl⟩

section Laws

variable (h : s.registry.WellKept)

include h

theorem answers (name : String) : s.Answers name := by
  have hget (registry : Registry Float) (monitor : Nat) :
      s.asked .get name = .ok (registry, monitor) ↔
        registry = s.registry ∧ (name, monitor) ∈ s.registry.channels := by
    rw [asked_get_eq_ok_iff, h.find?_eq_some_iff]
  refine ⟨hget, ?_, fun result => asked_getOrRegister_eq_ok_iff, ?_, ?_⟩
  · exact fun registry monitor => Registry.register_eq_ok_iff
  · intro how registry monitor handle hasked
    have hsession := session_request_of_ok hasked handle
    refine ⟨hsession, ?_⟩
    rw [hsession, asked_getOrRegister_eq_ok_iff, asked_get_eq_ok_iff]
    refine .inl ⟨rfl, ?_⟩
    show registry.find? name = some monitor
    obtain ⟨rfl, hfind⟩ | hregister := asked_eq_ok_cases hasked
    · exact hfind
    · rw [(h.register hregister).find?_eq_some_iff]
      obtain ⟨-, -, -, settings, m, -, -, rfl⟩ := Registry.register_eq_ok_iff.mp hregister
      exact List.mem_append_right _ List.mem_cons_self
  · exact fun how e handle hasked => simpleStep_request_of_error hasked handle

theorem simpleStep_allStats_cases :
    (∃ rows, s.simpleStep .allStats = ⟨s, .table rows, []⟩ ∧
      rows.map (·.1) = s.registry.names ∧
      List.Forall₂ (fun m row => s.fieldsOf m = .ok row.2) s.registry.registered rows) ∨
    ∃ m ∈ s.registry.registered, ∃ e, m.snapshot s.clock = .error e ∧
      s.simpleStep .allStats = s.refuse (.reading e) := by
  have hstep : s.simpleStep .allStats = s.perform allStats := rfl
  rw [hstep, perform_allStats]
  obtain ⟨rows, hrows, hall⟩ | ⟨m, hmem, fault, hfault, hrows⟩ :=
    mapM_cases (fun m => do return (m.name, ← s.fieldsOf m)) s.registry.registered
  · have heach : List.Forall₂ (fun m row => m.name = row.1 ∧ s.fieldsOf m = .ok row.2)
        s.registry.registered rows := by
      refine hall.imp fun m row hrow => ?_
      obtain ⟨fields, hfields, hrow⟩ := bind_eq_ok_iff.mp hrow
      cases hrow
      exact ⟨rfl, hfields⟩
    refine .inl ⟨rows, ?_, ?_, heach.imp fun m row hrow => hrow.2⟩
    · rw [hrows]
    · have hnames : List.Forall₂ (· = ·) (s.registry.registered.map Monitor.name)
          (rows.map (·.1)) := by
        rw [List.forall₂_map_left_iff, List.forall₂_map_right_iff]
        exact heach.imp fun m row hrow => hrow.1
      rw [List.forall₂_eq_eq_eq] at hnames
      rw [← hnames, h.registered_names]
  · obtain ⟨snapshot, -, hfields⟩ | ⟨e, he, hfields⟩ := s.fieldsOf_cases m
    · rw [hfields] at hfault
      cases hfault
    · rw [hfields] at hfault
      cases hfault
      refine .inr ⟨m, hmem, e, he, ?_⟩
      rw [hrows]

theorem simpleStep_stats_cases (name : String) :
    (name ∉ s.registry.names ∧ s.simpleStep (.stats name) = s.refuse (.registry (.unknown name))) ∨
    ∃ monitor m, (name, monitor) ∈ s.registry.channels ∧ s.fleet.monitors[monitor]? = some m ∧
      ((∃ snapshot, m.snapshot s.clock = .ok snapshot ∧
          s.simpleStep (.stats name) = ⟨s, .fields snapshot.fields, []⟩) ∨
        ∃ e, m.snapshot s.clock = .error e ∧ s.simpleStep (.stats name) = s.refuse (.reading e)) := by
  have hstep : s.simpleStep (.stats name) = s.perform (statsOf name) := rfl
  rw [hstep]
  cases hfind : s.registry.find? name with
  | none =>
    refine .inl ⟨?_, perform_statsOf_of_none s hfind⟩
    rw [← Registry.contains_iff, contains_eq_isSome, hfind]
    exact Bool.false_ne_true
  | some monitor =>
    have hmem := h.find?_eq_some_iff.mp hfind
    obtain ⟨m, hm, -⟩ := h.name_eq _ hmem
    refine .inr ⟨monitor, m, hmem, hm, ?_⟩
    rw [perform_statsOf s hfind hm]
    obtain ⟨snapshot, hsnapshot, hfields⟩ | ⟨e, he, hfields⟩ := s.fieldsOf_cases m
    · rw [hfields]
      exact .inl ⟨snapshot, hsnapshot, rfl⟩
    · rw [hfields]
      exact .inr ⟨e, he, rfl⟩

theorem shows : s.Shows := by
  refine ⟨rfl, ?_, fun name => ?_, simpleStep_allStats_cases h, simpleStep_stats_cases h⟩
  · show (⟨s, .count s.registry.size, []⟩ : Done) = _
    rw [Registry.size, Registry.names, List.length_map]
  · show (⟨s, .flag (s.registry.contains name), []⟩ : Done) = _
    rw [Bool.eq_iff_iff.mpr (Registry.contains_iff.trans decide_eq_true_iff.symm)]

/-- If all monitors can be read, all statistics are shown. -/
theorem statistics_of_readable
    (hread : ∀ m ∈ s.fleet.monitors, ∃ snapshot, m.snapshot s.clock = .ok snapshot) :
    (∃ rows, s.simpleStep .allStats = ⟨s, .table rows, []⟩) ∧
      ∀ name ∈ s.registry.names, ∃ fields,
        s.simpleStep (.stats name) = ⟨s, .fields fields, []⟩ := by
  have hnever {m : Monitor Float} (hm : m ∈ s.fleet.monitors) {e : ArithmeticError}
      (he : m.snapshot s.clock = .error e) : False := by
    obtain ⟨snapshot, hsnapshot⟩ := hread m hm
    rw [hsnapshot] at he
    cases he
  constructor
  · obtain ⟨rows, hrows, -⟩ | ⟨m, hmem, e, he, -⟩ := simpleStep_allStats_cases h
    · exact ⟨rows, hrows⟩
    · obtain ⟨channel, -, hm⟩ := List.mem_filterMap.mp hmem
      exact (hnever (List.mem_of_getElem? hm) he).elim
  · intro name hname
    obtain ⟨hunknown, -⟩ | ⟨monitor, m, -, hm, ⟨snapshot, -, hstep⟩ | ⟨e, he, -⟩⟩ :=
      simpleStep_stats_cases h name
    · exact absurd hname hunknown
    · exact ⟨_, hstep⟩
    · exact (hnever (List.mem_of_getElem? hm) he).elim

end Laws

/-- The names that are there stay, as long as the registry is not closed. -/
theorem prefix_afterSteps {steps : List Step} (hopen : ∀ step ∈ steps, step ≠ .shutdown)
    (s : Session) : s.registry.channels <+: (s.afterSteps steps).registry.channels := by
  induction steps generalizing s with
  | nil => exact List.prefix_refl _
  | cons step steps ih =>
    have hstep : s.registry.channels <+: (s.simpleStep step).session.registry.channels := by
      rw [channels_simpleStep]
      cases step with
      | request how name handle =>
        cases hasked : s.asked how name with
        | error e =>
          simp only [deedsOf, hasked]
          exact List.prefix_refl _
        | ok result =>
          simp only [deedsOf, hasked]
          split
          · exact List.prefix_refl _
          · exact List.prefix_append _ _
      | shutdown => exact absurd rfl (hopen _ List.mem_cons_self)
      | _ => exact List.prefix_refl _
    exact hstep.trans (ih (fun step hmem => hopen step (List.mem_cons_of_mem _ hmem)) _)

/-- No hook is called by steps that call none, so that all monitors are as they were made. -/
theorem created_of_isQuiet {steps : List Step} (hquiet : ∀ step ∈ steps, step.isQuiet = true)
    (hnew : ∀ m ∈ s.fleet.monitors, ∃ name settings now, Monitor.create name settings now = .ok m) :
    ∀ m ∈ (s.afterSteps steps).fleet.monitors,
      ∃ name settings now, Monitor.create name settings now = .ok m := by
  induction steps generalizing s with
  | nil => exact hnew
  | cons step steps ih =>
    refine ih (fun step hmem => hquiet step (List.mem_cons_of_mem _ hmem)) ?_
    have hmove := s.move_of_isQuiet (hquiet step List.mem_cons_self)
    obtain ⟨-, hfleet | ⟨name, settings, made, hcreate, hfleet⟩⟩ | ⟨hook, hnone, -⟩ :=
      hmove.fleet_cases
    · rw [hfleet]
      exact hnew
    · rw [hfleet]
      intro m hm
      obtain hold | hadded := List.mem_append.mp hm
      · exact hnew m hold
      · rw [List.mem_singleton.mp hadded]
        exact ⟨name, settings, s.clock, hcreate⟩
    · cases hnone

/-- A monitor that is registered later is new: it was nobody's before, it has recorded nothing, and
the use of other monitors does not change it. -/
theorem fresh_of_asked (hs : s.Orderly) (steps : List Step) {name : String}
    {registry : Registry Float} {monitor : Nat}
    (h : (s.afterSteps steps).asked .register name = .ok (registry, monitor)) :
    s.fleet.monitors.length ≤ monitor ∧
      ∃ m, registry.fleet.monitors[monitor]? = some m ∧ m.HasCounts 0 0 0 ∧
        ∀ hooks, (∀ hook ∈ hooks, hook.monitor ≠ monitor) →
          (registry.fleet.run hooks).monitors[monitor]? = some m := by
  obtain ⟨events, hreaches⟩ := (leads_afterSteps hs steps).reaches
  obtain ⟨-, -, rfl, settings, m, -, hcreate, rfl⟩ := Registry.register_eq_ok_iff.mp h
  have hm : ((s.afterSteps steps).fleet.add m).monitors[(s.afterSteps steps).fleet.nextMonitor]? =
      some m :=
    List.getElem?_concat_length
  refine ⟨hreaches.length_monitors_le, m, hm, (Monitor.hasCounts_of_create hcreate).1, ?_⟩
  exact fun hooks hne => (Fleet.getElem?_monitors_run hne _).trans hm

/-- After every sequence of steps, the registry is a map from distinct names, none of them empty, to
monitors that have these names, in the order in which they were registered since it was closed for
the last time. It shows these names and answers by them: a channel that is asked for is given the
monitor that it was registered with, a new one comes last with a new monitor, and a request that is
refused changes nothing. Names stay until the registry is closed, which forgets them all and leaves
the monitors as they are; what is registered after that is new. If only the registry was used, all
statistics can be read. -/
theorem registry_is_ordered_map (clock : Float) (source : SettingsSource Float) (stamp : Json)
    (steps : List Step) (hsimple : ∀ step ∈ steps, step.isSimple = true) :
    ∃ s, ((start clock source stamp).run steps).1 = s ∧
      s.registry.WellKept ∧
      s.registry.channels = standing ((start clock source stamp).deeds steps) ∧
      s.Shows ∧
      (∀ name, s.Answers name) ∧
      (∀ more, (∀ step ∈ more, step ≠ .shutdown) →
        s.registry.channels <+: (s.afterSteps more).registry.channels) ∧
      (s.simpleStep .shutdown).session = { s with registry := ⟨s.fleet, []⟩ } ∧
      (∀ more name registry monitor,
        (s.afterSteps more).asked .register name = .ok (registry, monitor) →
        s.fleet.monitors.length ≤ monitor ∧
          ∃ m, registry.fleet.monitors[monitor]? = some m ∧ m.HasCounts 0 0 0 ∧
            ∀ hooks, (∀ hook ∈ hooks, hook.monitor ≠ monitor) →
              (registry.fleet.run hooks).monitors[monitor]? = some m) ∧
      ((∀ step ∈ steps, step.isQuiet = true) →
        (∃ rows, s.simpleStep .allStats = ⟨s, .table rows, []⟩) ∧
          ∀ name ∈ s.registry.names, ∃ fields,
            s.simpleStep (.stats name) = ⟨s, .fields fields, []⟩) := by
  have hrun : ((start clock source stamp).run steps).1 =
      (start clock source stamp).afterSteps steps :=
    runSteps_eq_afterSteps hsimple (Step.length_lt_costs steps) _
  have hstart := orderly_start clock source stamp
  have horderly := (leads_afterSteps hstart steps).orderly
  have hkept := wellKept_afterSteps hstart (.of_channels_eq_nil rfl) steps
  refine ⟨_, hrun, hkept, channels_afterSteps _ steps, shows hkept, answers hkept, ?_, ?_, ?_, ?_⟩
  · exact fun more hopen => prefix_afterSteps hopen _
  · exact session_shutdown _
  · exact fun more name registry monitor hasked => fresh_of_asked horderly more hasked
  · intro hquiet
    refine statistics_of_readable hkept fun m hm => ?_
    obtain ⟨name, settings, made, hcreate⟩ :=
      created_of_isQuiet (s := start clock source stamp) hquiet (fun m hm => by cases hm) m hm
    exact Monitor.exists_snapshot_of_create hcreate _

/-- Two channels are registered, one of them is asked for again, twice a name is refused, and after
the registry was closed the first one is registered again. -/
def reopening : List Step :=
  [.request .register "mail" none, .request .getOrRegister "log" none,
    .request .register "mail" none, .request .getOrRegister "mail" none,
    .request .getOrRegister "" none, .shutdown, .request .getOrRegister "mail" none]

theorem registry_is_ordered_map_reopening :
    (∀ step ∈ reopening, step.isSimple = true ∧ step.isQuiet = true) ∧
    ∃ s rows, ((start 0 (fun _ => .ok Settings.standard) .null).run reopening).1 = s ∧
      s.registry.channels = [("mail", 2)] ∧ s.fleet.monitors.length = 3 ∧
      s.asked .get "mail" = .ok (s.registry, 2) ∧
      (∀ result, s.asked .get "log" ≠ .ok result) ∧
      s.simpleStep .allStats = ⟨s, .table rows, []⟩ ∧ rows.map (·.1) = ["mail"] := by
  have hsteps : ∀ step ∈ reopening, step.isSimple = true ∧ step.isQuiet = true := by decide
  obtain ⟨s, hrun, -, hchannels, hshows, hanswers, -, -, -, hall⟩ :=
    registry_is_ordered_map 0 (fun _ => .ok Settings.standard) .null reopening
      fun step hmem => (hsteps step hmem).1
  have hstanding : standing ((start 0 (fun _ => .ok Settings.standard) .null).deeds reopening) =
      [("mail", 2)] := by
    decide +kernel
  have hlength : s.fleet.monitors.length = 3 := by
    rw [← hrun]
    decide +kernel
  rw [hstanding] at hchannels
  obtain ⟨⟨rows, hrows⟩, -⟩ := hall fun step hmem => (hsteps step hmem).2
  refine ⟨hsteps, s, rows, hrun, hchannels, hlength, ?_, ?_, hrows, ?_⟩
  · rw [(hanswers "mail").get, hchannels]
    exact ⟨rfl, List.mem_cons_self⟩
  · rintro ⟨registry, monitor⟩ hasked
    rw [(hanswers "log").get, hchannels] at hasked
    simp at hasked
  · obtain ⟨rows', hrows', hnames, -⟩ | ⟨m, -, e, -, hrefused⟩ := hshows.allStats
    · rw [hrows] at hrows'
      cases hrows'
      rw [hnames, Registry.names, hchannels]
      rfl
    · rw [hrows] at hrefused
      cases hrefused

end Session

end SendMeter
