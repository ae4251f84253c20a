import Mathlib.Data.List.Forall2
import SendMeter.Fleet
import SendMeter.Proofs.Monitor.Steps
import SendMeter.Proofs.Rescaling.History

namespace SendMeter

/-- The same refusal with its numbers in other units. -/
def CompletionError.map {α β : Type} (f : α → β) : CompletionError α → CompletionError β
  | .negativeDuration duration => .negativeDuration (f duration)
  | .arithmetic error => .arithmetic error

/-- The same refusal with its numbers in other units. -/
def HookError.map {α β : Type} (f : α → β) : HookError α → HookError β
  | .noMonitor => .noMonitor
  | .noTicket => .noTicket
  | .completion error => .completion (error.map f)

namespace Rescaling

variable (c : Rescaling)

def settings (s : Settings Rat) : Settings Rat :=
  { window := s.window
    periodUnit := c.span s.periodUnit
    averagingPeriod := c.span s.averagingPeriod }

def ticket (t : Ticket Rat) : Ticket Rat :=
  { t with startedAt := c.reading t.startedAt }

def monitor (m : Monitor Rat) : Monitor Rat :=
  { m with
    settings := c.settings m.settings
    durations := c.durations m.durations
    sends := c.rate m.sends
    failures := c.rate m.failures
    outcomes := c.outcomes m.outcomes }

def fleet (f : Fleet Rat) : Fleet Rat :=
  ⟨f.monitors.map c.monitor, f.tickets.map c.ticket⟩

/-- The same hook by another clock. -/
def hook : Hook Rat → Hook Rat
  | .start monitor now => .start monitor (c.reading now)
  | .complete monitor ticket success duration now =>
    .complete monitor ticket success (duration.map c.span) (c.reading now)

variable {c}

theorem create_monitor (name : String) (s : Settings Rat) (now : Rat) :
    Monitor.create name (c.settings s) (c.reading now) =
      ((Monitor.create name s now).map c.monitor).mapError (HistoryError.map c.span) := by
  unfold Monitor.create
  simp only [settings, create_rate]
  obtain ⟨d, hdurations, hd⟩ | hdurations := c.create_durations_cases s.window
  · rw [hdurations]
    cases Rate.create s.window s.periodUnit s.averagingPeriod none now with
    | error e => rfl
    | ok rate =>
      obtain ⟨o, houtcomes, ho⟩ | houtcomes := c.create_outcomes_cases s.window
      · simp only [houtcomes, Except.map, mapError_ok, bind, Except.bind, pure, Except.pure,
          monitor, settings, hd, ho]
      · rw [houtcomes]
        rfl
  · rw [hdurations]
    rfl

theorem start_monitor (m : Monitor Rat) (now : Rat) :
    (c.monitor m).start (c.reading now) =
      (m.start now).map fun started => (c.monitor started.1, c.ticket started.2) := by
  have hsends : (c.monitor m).sends = c.rate m.sends := rfl
  rw [Monitor.start_eq, Monitor.start_eq, hsends, increment_rate]
  cases m.sends.increment now with
  | error e => rfl
  | ok sends => rfl

theorem recordOutcome_monitor (m : Monitor Rat) (success : Bool) (duration now : Rat) :
    (c.monitor m).recordOutcome success (c.span duration) (c.reading now) =
      (m.recordOutcome success duration now).map c.monitor := by
  have houtcomes : (c.monitor m).outcomes = c.outcomes m.outcomes := rfl
  cases success with
  | true =>
    have hdurations : (c.monitor m).durations = c.durations m.durations := rfl
    simp only [Monitor.recordOutcome_eq, if_pos, Monitor.recordSuccess_eq]
    rw [houtcomes, hdurations, record_outcomes, append_durations]
    cases m.outcomes.record true now with
    | error e => rfl
    | ok outcomes =>
      cases m.durations.append duration now with
      | error e => rfl
      | ok durations => rfl
  | false =>
    have hfailures : (c.monitor m).failures = c.rate m.failures := rfl
    simp only [Monitor.recordOutcome_eq, Bool.false_eq_true, if_false, Monitor.recordFailure_eq]
    rw [houtcomes, hfailures, record_outcomes, increment_rate]
    cases m.outcomes.record false now with
    | error e => rfl
    | ok outcomes =>
      cases m.failures.increment now with
      | error e => rfl
      | ok failures => rfl

private theorem duration_ticket (t : Ticket Rat) (given : Option Rat) (now : Rat) :
    (c.ticket t).duration (given.map c.span) (c.reading now) = c.span (t.duration given now) := by
  cases given with
  | none => exact idle_reading t.startedAt now
  | some duration => rfl

theorem complete_monitor (m : Monitor Rat) (t : Ticket Rat) (success : Bool) (given : Option Rat)
    (now : Rat) :
    (c.monitor m).complete (c.ticket t) success (given.map c.span) (c.reading now) =
      ((m.complete t success given now).map
        fun completed => (c.monitor completed.1, c.ticket completed.2)).mapError
          (CompletionError.map c.span) := by
  have hnegative : ((given.map c.span).filter fun duration => duration < Scalar.zero) =
      (given.filter fun duration => duration < Scalar.zero).map c.span := by
    cases given with
    | none => rfl
    | some duration =>
      have hiff : c.span duration < Scalar.zero ↔ duration < Scalar.zero :=
        c.span_lt_zero_iff duration
      simp only [Option.map_some, Option.filter_some, hiff]
      split
      · rfl
      · rfl
  have hcompleted : (c.ticket t).completed = t.completed := rfl
  rw [Monitor.complete_eq, Monitor.complete_eq, hnegative, hcompleted, duration_ticket,
    recordOutcome_monitor]
  cases given.filter fun duration => duration < Scalar.zero with
  | some duration => rfl
  | none =>
    cases t.completed with
    | true => rfl
    | false =>
      cases m.recordOutcome success (t.duration given now) now with
      | error e => rfl
      | ok recorded => rfl

theorem apply_fleet (f : Fleet Rat) (h : Hook Rat) :
    (c.fleet f).apply (c.hook h) = ((f.apply h).map c.fleet).mapError (HookError.map c.span) := by
  cases h with
  | start monitor now =>
    simp only [hook, Fleet.apply, Fleet.start_eq, fleet, List.getElem?_map]
    cases f.monitors[monitor]? with
    | none => rfl
    | some m =>
      simp only [Option.map_some, start_monitor]
      cases m.start now with
      | error e => rfl
      | ok started =>
        simp only [Except.map, mapError_ok, fleet, List.map_set, List.map_append]
        rfl
  | complete monitor ticket success duration now =>
    simp only [hook, Fleet.apply, Fleet.complete_eq, fleet, List.getElem?_map]
    cases f.monitors[monitor]? with
    | none => rfl
    | some m =>
      cases f.tickets[ticket]? with
      | none => rfl
      | some t =>
        simp only [Option.map_some, complete_monitor]
        cases m.complete t success duration now with
        | error e => rfl
        | ok completed =>
          simp only [Except.map, mapError_ok, fleet, List.map_set]

theorem after_fleet (f : Fleet Rat) (h : Hook Rat) :
    (c.fleet f).after (c.hook h) = c.fleet (f.after h) := by
  simp only [Fleet.after, Work.left, Fleet.callM_eq]
  rw [apply_fleet]
  cases f.apply h with
  | error e => rfl
  | ok g => rfl

theorem run_fleet (f : Fleet Rat) (hooks : List (Hook Rat)) :
    (c.fleet f).run (hooks.map c.hook) = c.fleet (f.run hooks) := by
  induction hooks generalizing f with
  | nil => rfl
  | cons h hooks ih => rw [List.map_cons, Fleet.run_cons, Fleet.run_cons, after_fleet, ih]

variable (c) in
/-- A monitor that was created like another one, by another clock. -/
def Recreated (m m' : Monitor Rat) : Prop :=
  ∃ name s created, Monitor.create name s created = .ok m ∧
    Monitor.create name (c.settings s) (c.reading created) = .ok m'

theorem Recreated.eq_monitor {m m' : Monitor Rat} (h : c.Recreated m m') : m' = c.monitor m := by
  obtain ⟨name, s, created, hm, hm'⟩ := h
  rw [create_monitor, hm] at hm'
  cases hm'
  rfl

theorem eq_fleet_of_recreated {f g : Fleet Rat} (hf : f.tickets = []) (hg : g.tickets = [])
    (hmonitors : List.Forall₂ c.Recreated f.monitors g.monitors) : g = c.fleet f := by
  obtain ⟨monitors, tickets⟩ := f
  obtain ⟨monitors', tickets'⟩ := g
  cases hf
  cases hg
  dsimp only at hmonitors
  have hsame : monitors' = monitors.map c.monitor := by
    induction hmonitors with
    | nil => rfl
    | cons hm _ ih => rw [List.map_cons, ← hm.eq_monitor, ih]
  rw [hsame]
  rfl

variable (c) in
/-- Two monitors show the same, each by its own clock. -/
structure Agrees (m m' : Monitor Rat) : Prop where
  sendCount_eq : m'.sendCount = m.sendCount
  errorCount_eq : m'.errorCount = m.errorCount
  sendRate_eq : ∀ now, m'.sendRate (c.reading now) = m.sendRate now
  errorRate_eq : ∀ now, m'.errorRate (c.reading now) = m.errorRate now
  errorRatio_eq : m'.errorRatio = m.errorRatio
  sinceLastSend_eq : ∀ now, m'.sinceLastSend (c.reading now) = c.factor * m.sinceLastSend now
  meanDuration_eq : m'.meanDuration = c.factor * m.meanDuration
  minDuration_eq : m'.minDuration = c.factor * m.minDuration
  maxDuration_eq : m'.maxDuration = c.factor * m.maxDuration
  durationVariance_eq :
    m'.durations.average.variance = c.factor ^ 2 * m.durations.average.variance

theorem agrees_monitor (m : Monitor Rat) : c.Agrees m (c.monitor m) where
  sendCount_eq := rfl
  errorCount_eq := rfl
  sendRate_eq := mean_rate m.sends
  errorRate_eq := mean_rate m.failures
  errorRatio_eq := errorRatio_outcomes m.outcomes
  sinceLastSend_eq now := sinceLast_redated now m.sends.average
  meanDuration_eq := rfl
  minDuration_eq := minimum_durations m.durations
  maxDuration_eq := maximum_durations m.durations
  durationVariance_eq := rfl

/-- Monitors are created by one clock if and only if they are by another one. After the same hooks
by both clocks, with given durations in the units of the clocks, the same hooks are refused, for the
same reasons, and the monitors show the same counts, rates and shares; times and durations are
those of the first clock, multiplied by the factor, and the variance of the durations by its square.
If the clocks differ in their origin alone, all settings and spans are the same. -/
theorem readings_follow_clock (c : Rescaling) {f g : Fleet Rat} (hf : f.tickets = [])
    (hg : g.tickets = []) (hmonitors : List.Forall₂ c.Recreated f.monitors g.monitors)
    (hooks : List (Hook Rat)) :
    (∀ (name : String) (s : Settings Rat) (created : Rat),
      (Monitor.create name (c.settings s) (c.reading created)).isOk =
        (Monitor.create name s created).isOk) ∧
    (∀ hook : Hook Rat,
      (∀ g', (f.run hooks).apply hook = .ok g' →
        ((g.run (hooks.map c.hook)).apply (c.hook hook)).isOk) ∧
      ∀ e, (f.run hooks).apply hook = .error e →
        (g.run (hooks.map c.hook)).apply (c.hook hook) = .error (e.map c.span)) ∧
    List.Forall₂ c.Agrees (f.run hooks).monitors (g.run (hooks.map c.hook)).monitors ∧
    (c.factor = 1 → (∀ s, c.settings s = s) ∧ ∀ d, c.span d = d) := by
  obtain rfl := eq_fleet_of_recreated hf hg hmonitors
  refine ⟨fun name s created => ?_, fun hook => ⟨fun g' hg' => ?_, fun e he => ?_⟩, ?_, ?_⟩
  · rw [create_monitor]
    cases Monitor.create name s created with
    | error e => rfl
    | ok m => rfl
  · rw [run_fleet, apply_fleet, hg']
    rfl
  · rw [run_fleet, apply_fleet, he]
    rfl
  · rw [run_fleet, fleet, List.forall₂_map_right_iff]
    exact List.forall₂_same.mpr fun m _ => agrees_monitor m
  · intro hfactor
    have hspan (d : Rat) : c.span d = d := by rw [span, hfactor, one_mul]
    refine ⟨fun s => ?_, hspan⟩
    rw [settings, hspan, hspan]

/-- A clock of half seconds that shows zero at three seconds. -/
def halves : Rescaling := { factor := 2, shift := -6, factor_pos := by decide }

/-- One monitor. -/
def mail (s : Settings Rat) (created : Rat) : Fleet Rat :=
  ⟨(Monitor.create "mail" s created).toOption.toList, []⟩

private theorem recreated_mail (c : Rescaling) (s : Settings Rat) (created : Rat) :
    List.Forall₂ c.Recreated (mail s created).monitors
      (mail (c.settings s) (c.reading created)).monitors := by
  have hcreate := create_monitor (c := c) "mail" s created
  unfold mail
  cases hm : Monitor.create "mail" s created with
  | error e =>
    rw [hcreate, hm]
    exact .nil
  | ok m =>
    rw [hm] at hcreate
    rw [hcreate]
    exact .cons ⟨"mail", s, created, hm, hcreate⟩ .nil

/-- Two sends. The second fails, after a negative duration was refused. -/
def twoSends : List (Hook Rat) :=
  [.start 0 1, .complete 0 0 true none 3, .start 0 3, .complete 0 1 false (some (-1)) 4,
    .complete 0 1 false none 5]

theorem readings_follow_clock_halves :
    List.Forall₂ halves.Recreated (mail ⟨10, 1, 60⟩ 0).monitors (mail ⟨10, 2, 120⟩ (-6)).monitors ∧
    (((mail ⟨10, 1, 60⟩ 0).run twoSends).monitors.map fun m =>
      (m.sendCount, m.errorCount, m.sinceLastSend 5, m.meanDuration)) = [(2, 1, 2, 2)] ∧
    (((mail ⟨10, 2, 120⟩ (-6)).run (twoSends.map halves.hook)).monitors.map fun m =>
      (m.sendCount, m.errorCount, m.sinceLastSend 4, m.meanDuration)) = [(2, 1, 4, 4)] := by
  have hsettings : halves.settings ⟨10, 1, 60⟩ = ⟨10, 2, 120⟩ := by decide +kernel
  have hcreated : halves.reading 0 = -6 := by decide +kernel
  have hnow : halves.reading 5 = 4 := by decide +kernel
  have hmonitors := recreated_mail halves ⟨10, 1, 60⟩ 0
  rw [hsettings, hcreated] at hmonitors
  have hseconds : (((mail ⟨10, 1, 60⟩ 0).run twoSends).monitors.map fun m =>
      (m.sendCount, m.errorCount, m.sinceLastSend 5, m.meanDuration)) = [(2, 1, 2, 2)] := by
    decide +kernel
  obtain ⟨-, -, hagree, -⟩ := readings_follow_clock halves rfl rfl hmonitors twoSends
  refine ⟨hmonitors, hseconds, ?_⟩
  obtain ⟨m, hm, hshown⟩ := List.map_eq_singleton_iff.mp hseconds
  rw [hm] at hagree
  obtain ⟨m', rest, hshows, hrest, hm'⟩ := List.forall₂_cons_left_iff.mp hagree
  rw [hm', List.forall₂_nil_left_iff.mp hrest, List.map_singleton, ← hnow, hshows.sendCount_eq,
    hshows.errorCount_eq, hshows.sinceLastSend_eq, hshows.meanDuration_eq]
  simp only [Prod.mk.injEq] at hshown
  obtain ⟨hsends, herrors, hsince, hmean⟩ := hshown
  rw [hsends, herrors, hsince, hmean]
  decide +kernel

end Rescaling

end SendMeter
