import SendMeter.Proofs.Fleet.ExactlyOnce
import SendMeter.Proofs.Fleet.Invariants
import SendMeter.Proofs.Rate.Saturation
import SendMeter.Readings

namespace SendMeter

open Binary64

namespace Monitor

/-- Both rates of a monitor are bounded and have its period. -/
structure Bounded (tick : ℚ) (m : Monitor Float) : Prop where
  sends : m.sends.Bounded tick
  failures : m.failures.Bounded tick
  sends_unit : m.sends.periodUnit = m.settings.periodUnit
  failures_unit : m.failures.periodUnit = m.settings.periodUnit

/-- One of the rates of a monitor is saturated. -/
def Saturated (m : Monitor Float) (now : Float) : Prop :=
  m.sends.Saturated now ∨ m.failures.Saturated now

variable {tick : ℚ} {m : Monitor Float} {now : Float}

theorem bounded_of_create {name : String} {s : Settings Float}
    (hunit : s.periodUnit.isFinite = true) (hperiod : s.averagingPeriod.isFinite = true)
    (hnow : Reading tick now) (h : create name s now = .ok m) : m.Bounded tick := by
  obtain ⟨durations, sends, failures, outcomes, -, hsends, hfailures, -, rfl⟩ := create_eq_ok h
  have hunit_eq {r : Rate Float}
      (hr : Rate.create s.window s.periodUnit s.averagingPeriod none now = .ok r) :
      r.periodUnit = s.periodUnit := by
    obtain ⟨average, -, -, -, -, rfl⟩ := Rate.create_eq_ok hr
    rfl
  exact ⟨Rate.bounded_of_create hunit hperiod hnow hsends,
    Rate.bounded_of_create hunit hperiod hnow hfailures, hunit_eq hsends, hunit_eq hfailures⟩

theorem invariant_bounded (htick : IsTick tick) : Invariant (Reading tick) (Bounded tick) where
  start {m after t now} hnow hm h := by
    obtain ⟨sends, hsends, rfl, -⟩ := start_eq_ok h
    exact { hm with
      sends := hm.sends.increment htick hnow hsends
      sends_unit := (Rate.periodUnit_of_increment hsends).trans hm.sends_unit }
  recordOutcome {m after success duration now} hnow hm h := by
    cases success with
    | true =>
      obtain ⟨outcomes, durations, -, -, rfl⟩ := recordSuccess_eq_ok h
      exact { hm with }
    | false =>
      obtain ⟨outcomes, failures, -, hfailures, rfl⟩ := recordFailure_eq_ok h
      exact { hm with
        failures := hm.failures.increment htick hnow hfailures
        failures_unit := (Rate.periodUnit_of_increment hfailures).trans hm.failures_unit }

/-- A monitor whose period is less than half of the range of the floats, in ticks, is never
saturated. -/
theorem Bounded.not_saturated (h : m.Bounded tick)
    (hunit : 2 * (toRat m.settings.periodUnit / tick) < limit) (now : Float) :
    ¬ m.Saturated now := by
  have hpeak {r : Rate Float} (hr : r.periodUnit = m.settings.periodUnit) :
      2 * r.peak tick < limit := by
    rw [Rate.peak, hr, mul_max_of_nonneg _ _ zero_le_two, mul_one]
    exact max_lt two_lt_limit hunit
  rintro (hsends | hfailures)
  · exact h.sends.not_saturated (hpeak h.sends_unit) now hsends
  · exact h.failures.not_saturated (hpeak h.failures_unit) now hfailures

/-- How the rates of a monitor, and a snapshot of it, can be read. -/
structure Reads (m : Monitor Float) (now : Float) : Prop where
  sendRate : (m.sends.Saturated now ∧ m.sendRate now = .error .divisionByZero) ∨
    (¬ m.sends.Saturated now ∧ ∃ rate, m.sendRate now = .ok rate)
  errorRate : (m.failures.Saturated now ∧ m.errorRate now = .error .divisionByZero) ∨
    (¬ m.failures.Saturated now ∧ ∃ rate, m.errorRate now = .ok rate)

theorem Bounded.reads (h : m.Bounded least) (hsends : m.sends.average.count < 2 ^ 1023)
    (hfailures : m.failures.average.count < 2 ^ 1023) (hnow : now.isFinite = true) :
    m.Reads now :=
  ⟨Rate.mean_cases h.sends hsends hnow, Rate.mean_cases h.failures hfailures hnow⟩

theorem Reads.snapshot_cases (h : m.Reads now) :
    (m.Saturated now ∧ m.snapshot now = .error .divisionByZero) ∨
      (¬ m.Saturated now ∧ ∃ snapshot, m.snapshot now = .ok snapshot) := by
  have hsends_eq : (m.readings now).sendRate = m.sendRate now := rfl
  have hfailures_eq : (m.readings now).errorRate = m.errorRate now := rfl
  unfold snapshot
  simp only [hsends_eq, hfailures_eq]
  obtain ⟨hsends, hread⟩ | ⟨hsends, rate, hread⟩ := h.sendRate
  · rw [hread]
    exact .inl ⟨.inl hsends, rfl⟩
  · rw [hread]
    obtain ⟨hfailures, hread'⟩ | ⟨hfailures, rate', hread'⟩ := h.errorRate
    · rw [hread']
      exact .inl ⟨.inr hfailures, rfl⟩
    · rw [hread']
      exact .inr ⟨not_or.mpr ⟨hsends, hfailures⟩, _, rfl⟩

end Monitor

namespace Fleet

/-- New monitors with finite periods, made at readings of a clock, and no tickets. -/
def IsNewAt (tick : ℚ) (f : Fleet Float) : Prop :=
  f.tickets = [] ∧ ∀ m ∈ f.monitors, ∃ name settings now,
    settings.periodUnit.isFinite = true ∧ settings.averagingPeriod.isFinite = true ∧
      Reading tick now ∧ Monitor.create name settings now = .ok m

variable {tick : ℚ} {f : Fleet Float} {hooks : List (Hook Float)}

theorem IsNewAt.isNew (h : f.IsNewAt tick) : f.IsNew := by
  refine ⟨h.1, fun m hm => ?_⟩
  obtain ⟨name, settings, now, -, -, -, hcreate⟩ := h.2 m hm
  exact ⟨name, settings, now, hcreate⟩

/-- New monitors with the same settings. -/
def made (settings : Settings Float) (now : Float) (names : List String) : Fleet Float :=
  ⟨names.filterMap fun name => (Monitor.create name settings now).toOption, []⟩

theorem isNewAt_made (settings : Settings Float) (hunit : settings.periodUnit.isFinite = true)
    (hperiod : settings.averagingPeriod.isFinite = true) {now : Float} (hnow : Reading tick now)
    (names : List String) : (made settings now names).IsNewAt tick := by
  refine ⟨rfl, fun m hm => ?_⟩
  obtain ⟨name, -, hm⟩ := List.mem_filterMap.mp hm
  refine ⟨name, settings, now, hunit, hperiod, hnow, ?_⟩
  cases hcreate : Monitor.create name settings now with
  | error e => simp [hcreate, Except.toOption] at hm
  | ok created =>
    rw [hcreate] at hm
    cases hm
    rfl

theorem length_accepted_le (f : Fleet Float) (hooks : List (Hook Float)) :
    (f.accepted hooks).length ≤ hooks.length := by
  induction hooks generalizing f with
  | nil => exact Nat.le_refl 0
  | cons h hooks ih =>
    have hrest := ih (f.after h)
    rw [accepted]
    split
    · simpa using hrest
    · exact Nat.le_succ_of_le hrest

/-- No rate has seen more events than there were hooks. -/
theorem IsNew.counts_le (hf : f.IsNew) {m : Monitor Float} (hm : m ∈ (f.run hooks).monitors) :
    m.sends.average.count ≤ hooks.length ∧ m.failures.average.count ≤ hooks.length := by
  obtain ⟨monitor, hm⟩ := List.getElem?_of_mem hm
  have hbalanced := hf.balanced_run hooks
  obtain ⟨hcounts, -⟩ := hbalanced.hasCounts monitor m hm
  have hlength := f.length_accepted_le hooks
  constructor
  · rw [hcounts.sends_eq]
    exact List.countP_le_length.trans hlength
  · rw [hcounts.failures_eq]
    calc verdicts monitor false (f.run hooks).tickets.length (f.accepted hooks)
        ≤ (List.range (f.run hooks).tickets.length).length := List.countP_le_length
      _ = (f.run hooks).tickets.length := List.length_range
      _ = (f.accepted hooks).countP fun h => h.startsOn?.isSome := hbalanced.tickets_eq
      _ ≤ hooks.length := List.countP_le_length.trans hlength

theorem IsNewAt.bounded_run (hf : f.IsNewAt tick) (htick : IsTick tick)
    (hnow : ∀ h ∈ hooks, Reading tick h.now) : ∀ m ∈ (f.run hooks).monitors, m.Bounded tick := by
  refine (Monitor.invariant_bounded htick).run hnow fun m hm => ?_
  obtain ⟨name, settings, now, hunit, hperiod, hcreated, hcreate⟩ := hf.2 m hm
  exact Monitor.bounded_of_create hunit hperiod hcreated hcreate

theorem IsNewAt.reads_run (hf : f.IsNewAt least) (hnow : ∀ h ∈ hooks, h.now.isFinite = true)
    (hlength : hooks.length < 2 ^ 1023) {now : Float} (hread : now.isFinite = true) :
    ∀ m ∈ (f.run hooks).monitors, m.Reads now := by
  intro m hm
  have hbounded := hf.bounded_run isTick_least (fun h hh => reading_least (hnow h hh)) m hm
  obtain ⟨hsends, hfailures⟩ := hf.isNew.counts_le hm
  exact hbounded.reads (hsends.trans_lt hlength) (hfailures.trans_lt hlength) hread

end Fleet

end SendMeter
