import SendMeter.Proofs.Fleet.Own
import SendMeter.Proofs.Session.Accounts
import SendMeter.Proofs.Session.Quiet

namespace SendMeter.Session

open Fleet (Replays alone)

/-- A monitor was made in the course of a chain of moves, at the reading of the clock then. -/
def Makes (s₀ : Session) (events : List Event) (s : Session) (monitor : Nat) (m : Monitor Float) :
    Prop :=
  ∃ before after s₁ s₂ name settings,
    events = before ++ after ∧ Reaches s₀ before s₁ ∧ Move s₁ s₂ [] ∧ Reaches s₂ after s ∧
    s₁.fleet.nextMonitor = monitor ∧ Monitor.create name settings s₁.clock = .ok m ∧
    s₂.fleet = s₁.fleet.add m

variable {s₀ s s' : Session} {events new : List Event} {monitor : Nat} {m : Monitor Float}

theorem Makes.tail (h : Makes s₀ events s monitor m) (hmove : Move s s' new) :
    Makes s₀ (events ++ new) s' monitor m := by
  obtain ⟨before, after, s₁, s₂, name, settings, rfl, hbefore, hmade, hafter, hrest⟩ := h
  exact ⟨before, after ++ new, s₁, s₂, name, settings, List.append_assoc .., hbefore, hmade,
    .tail hafter hmove, hrest⟩

/-- The move that makes a monitor is no event. -/
theorem Move.eq_nil_of_add (h : Move s s' new) (hnew : hooksOf new = [])
    (hfleet : s'.fleet = s.fleet.add m) : new = [] := by
  cases h with
  | drop _ hphase hcancel _ =>
    rw [(Task.cancel_unstarted_eq_ok hphase hcancel).2] at hfleet
    have hlength := congrArg (fun f => f.monitors.length) hfleet
    simp at hlength
  | start => cases hnew
  | complete => cases hnew
  | begin => cases hnew
  | finish => cases hnew
  | cancel => cases hnew
  | _ => rfl

theorem Makes.of_move (h : Reaches s₀ events s) (hmove : Move s s' new) (hnew : hooksOf new = [])
    {name : String} {settings : Settings Float}
    (hcreate : Monitor.create name settings s.clock = .ok m)
    (hfleet : s'.fleet = s.fleet.add m) :
    Makes s₀ (events ++ new) s' s.fleet.nextMonitor m := by
  obtain rfl := hmove.eq_nil_of_add hnew hfleet
  exact ⟨events, [], s, s', name, settings, rfl, h, hmove, .refl, rfl, hcreate, hfleet⟩

section Start

variable {clock : Float} {source : SettingsSource Float} {stamp : Json}

/-- Each move keeps a monitor where it would be alone; a new monitor has called no hook. -/
theorem Reaches.replays (h : Reaches (start clock source stamp) events s)
    (hlt : monitor < s.fleet.monitors.length) (hapart : KeptApart monitor (hooksOf events)) :
    ∃ m₀, Makes (start clock source stamp) events s monitor m₀ ∧
      Replays monitor m₀ (hooksOf events) s.fleet := by
  induction h with
  | refl => cases hlt
  | @tail events new s s' h hmove ih =>
    have haccounted := h.accounted
    rw [hooksOf_append] at hapart ⊢
    have hkept := hapart.of_append haccounted.balanced.ticket_lt
    obtain ⟨hnew, hfleet | ⟨name, settings, m, hcreate, hfleet⟩⟩ | ⟨hook, hnew, hhook⟩ :=
      hmove.fleet_cases
    · rw [hfleet] at hlt ⊢
      rw [hnew, List.append_nil]
      obtain ⟨m₀, hmakes, hreplays⟩ := ih hlt hkept
      exact ⟨m₀, hmakes.tail hmove, hreplays⟩
    · rw [hfleet, Fleet.monitors_add, List.length_append, List.length_singleton] at hlt
      rw [hfleet, hnew, List.append_nil]
      obtain hold | rfl := Nat.lt_or_eq_of_le (Nat.le_of_lt_succ hlt)
      · obtain ⟨m₀, hmakes, hreplays⟩ := ih hold hkept
        exact ⟨m₀, hmakes.tail hmove, hreplays.add m⟩
      · exact ⟨m, .of_move h hmove hnew hcreate hfleet, .of_add haccounted.monitor_lt⟩
    · rw [(Fleet.length_of_apply hhook).1] at hlt
      rw [hnew] at hapart ⊢
      obtain ⟨m₀, hmakes, hreplays⟩ := ih hlt hkept
      exact ⟨m₀, hmakes.tail hmove, hreplays.apply haccounted.balanced hhook hapart⟩

end Start

/-- In every chain of moves, so at every point of every run, and for every monitor whose tickets were
completed at it and at no other: its whole state is that of a monitor which was made alone, with the
same settings and at the same reading of the clock, after the hooks that were called on this one, at
the same readings. Hooks that are refused may be left in. The steps that call no hook, such as
registering, looking things up and closing the registry, are moves without events. -/
theorem monitor_eq_replay (clock : Float) (source : SettingsSource Float) (stamp : Json) :
    (∀ steps, ∃ events,
      Reaches (start clock source stamp) events ((start clock source stamp).run steps).1 ∧
      ∀ channel ∈ ((start clock source stamp).run steps).1.registry.channels,
        channel.2 < ((start clock source stamp).run steps).1.fleet.monitors.length) ∧
    (∀ (s : Session) (step : Step), step.isQuiet = true → Move s (s.simpleStep step).session []) ∧
    ∀ (events : List Event) (s : Session), Reaches (start clock source stamp) events s →
      ∀ (monitor : Nat) (m : Monitor Float), s.fleet.monitors[monitor]? = some m →
        KeptApart monitor (hooksOf events) →
        ∃ m₀, Makes (start clock source stamp) events s monitor m₀ ∧
          ((alone m₀).run (ownHooks monitor (hooksOf events))).monitors = [m] ∧
          (alone m₀).accepted (ownHooks monitor (hooksOf events)) =
            ownHooks monitor (hooksOf events) ∧
          ∀ calls, (alone m₀).accepted calls = ownHooks monitor (hooksOf events) →
            ((alone m₀).run calls).monitors = [m] := by
  refine ⟨fun steps => ?_, fun s step hquiet => s.move_of_isQuiet hquiet, ?_⟩
  · have hleads := leads_runSteps (Step.costs steps) (orderly_start clock source stamp) steps
    obtain ⟨events, hreaches⟩ := hleads.reaches
    exact ⟨events, hreaches, hleads.orderly.channels⟩
  · intro events s hreaches monitor m hm hapart
    have hlt := (List.getElem?_eq_some_iff.mp hm).1
    obtain ⟨m₀, hmakes, hreplays⟩ := hreaches.replays hlt hapart
    obtain ⟨m', hm', hrun⟩ := hreplays.mirrors.exists_monitor
    rw [hm] at hm'
    cases hm'
    refine ⟨m₀, hmakes, hrun, hreplays.accepted_eq, fun calls hcalls => ?_⟩
    rw [← Fleet.run_accepted, hcalls, hrun]

/-- The hooks that a session without tasks accepts are moves of it, whatever the clock shows. -/
theorem exists_reaches_accepted (htasks : s.tasks = []) (hooks : List (Hook Float)) :
    ∃ s', Reaches s ((s.fleet.accepted hooks).map .hook) s' ∧ s'.fleet = s.fleet.run hooks := by
  induction hooks generalizing s with
  | nil => exact ⟨s, .refl, rfl⟩
  | cons hook hooks ih =>
    rw [Fleet.accepted, Fleet.run_cons]
    cases hg : s.fleet.apply hook with
    | error e =>
      rw [if_neg (by simp [Except.isOk, Except.toBool]), Fleet.after_of_error hg]
      exact ih htasks
    | ok g =>
      rw [if_pos (by simp [Except.isOk, Except.toBool]), Fleet.after_of_ok hg]
      have hcalled : ∃ s₁ s₂, Move s s₁ [] ∧ Move s₁ s₂ [.hook hook] ∧ s₂.fleet = g ∧
          s₂.tasks = [] := by
        cases hook with
        | start monitor now =>
          have htimed : Move s { s with clock := now } [] := .idle rfl rfl
          refine ⟨_, ({ s with clock := now } : Session).withFleet g, htimed, ?_, rfl, htasks⟩
          exact .start (s := { s with clock := now }) hg rfl
        | complete monitor ticket success duration now =>
          have htimed : Move s { s with clock := now } [] := .idle rfl rfl
          obtain ⟨m, t, -, ht, -⟩ := Fleet.apply_complete_cases hg
          have hfree : ({ s with clock := now } : Session).Free ticket := by
            refine ⟨(List.getElem?_eq_some_iff.mp ht).1, fun p hp => ?_⟩
            rw [htasks] at hp
            cases hp
          refine ⟨_, ({ s with clock := now } : Session).withFleet g, htimed, ?_, rfl, htasks⟩
          exact .complete hfree hg rfl
      obtain ⟨s₁, s₂, htimed, hmove, rfl, htasks₂⟩ := hcalled
      obtain ⟨s', hreaches, hfleet⟩ := ih htasks₂
      exact ⟨s', (htimed.reaches.trans hmove.reaches).trans hreaches, hfleet⟩

/-- Two channels are registered; the registry is looked at and closed. -/
def registeredPair : List Step :=
  [.request .register "mail" none, .request .getOrRegister "log" none, .allStats, .shutdown]

/-- Sends on the two channels cross each other. -/
def crossedSends : List (Hook Float) :=
  [.start 0 1, .start 1 2, .start 1 2, .complete 1 1 false none 3, .complete 0 0 true none 4,
    .start 0 5, .complete 1 2 true none 5, .complete 0 3 false none 7]

theorem keptApart_crossedSends (monitor : Nat) : KeptApart monitor crossedSends := by
  refine keptApart_of_issuer? (fun settler ticket success duration now hcalled => ?_) monitor
  simp only [crossedSends, List.mem_cons, reduceCtorEq, Hook.complete.injEq, List.not_mem_nil,
    false_or, or_false] at hcalled
  obtain ⟨rfl, rfl, -⟩ | ⟨rfl, rfl, -⟩ | ⟨rfl, rfl, -⟩ | ⟨rfl, rfl, -⟩ := hcalled <;> rfl

theorem monitor_eq_replay_crossing :
    ∃ events s m m₀, Reaches (start 0 (fun _ => .ok Settings.standard) .null) events s ∧
      KeptApart 0 (hooksOf events) ∧ s.fleet.monitors[0]? = some m ∧
      Makes (start 0 (fun _ => .ok Settings.standard) .null) events s 0 m₀ ∧
      ((alone m₀).run [.start 0 1, .complete 0 0 true none 4, .start 0 5,
        .complete 0 1 false none 7]).monitors = [m] := by
  have hquiet : ∀ step ∈ registeredPair, step.isQuiet = true := by decide
  have hregistered := reaches_afterSteps hquiet (start 0 (fun _ => .ok Settings.standard) .null)
  obtain ⟨s, hreaches, hfleet⟩ := exists_reaches_accepted
    (s := (start 0 (fun _ => .ok Settings.standard) .null).afterSteps registeredPair) rfl
    crossedSends
  have haccepted := (Fleet.accepted_sublist ((start 0 (fun _ => .ok Settings.standard)
    .null).afterSteps registeredPair).fleet crossedSends).eq_of_length (by decide +kernel)
  rw [haccepted] at hreaches
  have hmonitor : (s.fleet.monitors[0]?).isSome := by
    rw [hfleet]
    decide +kernel
  obtain ⟨m, hm⟩ := Option.isSome_iff_exists.mp hmonitor
  obtain ⟨-, -, hreplay⟩ := monitor_eq_replay 0 (fun _ => .ok Settings.standard) .null
  obtain ⟨m₀, hmakes, hrun, -⟩ := hreplay (crossedSends.map .hook) s (hregistered.trans hreaches) 0
    m hm (keptApart_crossedSends 0)
  exact ⟨_, s, m, m₀, hregistered.trans hreaches, keptApart_crossedSends 0, hm, hmakes, hrun⟩

end SendMeter.Session
