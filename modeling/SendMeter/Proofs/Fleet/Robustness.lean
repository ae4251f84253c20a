import SendMeter.Proofs.Average.Floats
import SendMeter.Proofs.Fleet.ExactlyOnce
import SendMeter.Proofs.Fleet.Invariants

namespace SendMeter

theorem Average.zero_le_variance_of_create {window : Int} {a : Average Float}
    (h : create window = .ok a) : 0 ≤ a.variance := by
  obtain ⟨-, alpha, -, rfl⟩ := create_eq_ok h
  exact Binary64.zero_le_zero

theorem Average.zero_le_variance_append {a b : Average Float} {value now : Float}
    (h : a.append value now = .ok b) : 0 ≤ b.variance := by
  obtain ⟨weight, -, rfl⟩ := append_eq_ok h
  exact zero_le_variance_fold a weight value

/-- All writers of the variance of a rate are guarded: the first event, which has none, an event
with a gap, and an event without a gap, which leaves it. -/
theorem Rate.zero_le_variance_increment {r s : Rate Float} {now : Float}
    (hr : 0 ≤ r.average.variance) (h : r.increment now = .ok s) : 0 ≤ s.average.variance := by
  obtain ⟨-, mean, -, rfl⟩ | ⟨last, sample, average, -, -, -, hblend, rfl⟩ | ⟨last, -, -, rfl⟩ :=
    increment_eq_ok h
  · exact Binary64.zero_le_zero
  · obtain ⟨weight, -, rfl⟩ := Average.blend_eq_ok hblend
    exact Average.zero_le_variance_fold _ weight sample
  · exact hr

theorem Rate.zero_le_variance_of_create {window : Int} {periodUnit averagingPeriod now : Float}
    {r : Rate Float} (h : create window periodUnit averagingPeriod none now = .ok r) :
    0 ≤ r.average.variance := by
  obtain ⟨average, haverage, -, -, -, rfl⟩ := create_eq_ok h
  exact Average.zero_le_variance_of_create haverage

namespace Monitor

/-- The averages behind the four histories of a monitor. -/
def averages {α : Type} (m : Monitor α) : List (Average α) :=
  [m.durations.average, m.sends.average, m.failures.average, m.outcomes.average]

/-- No variance of a monitor is negative, and all of them are numbers. -/
structure HasVariances (m : Monitor Float) : Prop where
  durations : 0 ≤ m.durations.average.variance
  sends : 0 ≤ m.sends.average.variance
  failures : 0 ≤ m.failures.average.variance
  outcomes : 0 ≤ m.outcomes.average.variance

theorem hasVariances_of_create {name : String} {s : Settings Float} {now : Float}
    {m : Monitor Float} (h : create name s now = .ok m) : m.HasVariances := by
  obtain ⟨durations, sends, failures, outcomes, hdurations, hsends, hfailures, houtcomes, rfl⟩ :=
    create_eq_ok h
  obtain ⟨lengths, hlengths, rfl⟩ := map_eq_ok_iff.mp hdurations
  obtain ⟨shares, hshares, rfl⟩ := map_eq_ok_iff.mp houtcomes
  exact ⟨Average.zero_le_variance_of_create hlengths, Rate.zero_le_variance_of_create hsends,
    Rate.zero_le_variance_of_create hfailures, Average.zero_le_variance_of_create hshares⟩

theorem invariant_hasVariances : Invariant (fun _ => True) HasVariances where
  start {m after t now} _ hm h := by
    obtain ⟨sends, hsends, rfl, -⟩ := start_eq_ok h
    exact { hm with sends := Rate.zero_le_variance_increment hm.sends hsends }
  recordOutcome {m after success duration now} _ hm h := by
    cases success with
    | true =>
      obtain ⟨outcomes, durations, houtcomes, hdurations, rfl⟩ := recordSuccess_eq_ok h
      obtain ⟨lengths, hlengths, rfl⟩ := Durations.append_eq_ok hdurations
      obtain ⟨shares, hshares, rfl⟩ := Outcomes.record_eq_ok houtcomes
      have hvariance := Average.zero_le_variance_append hlengths
      exact { hm with
        durations := hvariance
        outcomes := Average.zero_le_variance_append hshares }
    | false =>
      obtain ⟨outcomes, failures, houtcomes, hfailures, rfl⟩ := recordFailure_eq_ok h
      obtain ⟨shares, hshares, rfl⟩ := Outcomes.record_eq_ok houtcomes
      exact { hm with
        failures := Rate.zero_le_variance_increment hm.failures hfailures
        outcomes := Average.zero_le_variance_append hshares }

/-- A root can be taken of all variances. -/
theorem HasVariances.isNaN_deviation {m : Monitor Float} (h : m.HasVariances) :
    ∀ a ∈ m.averages, 0 ≤ a.variance ∧ a.deviation.isNaN = false := by
  have hvariance : ∀ a ∈ m.averages, 0 ≤ a.variance := by
    simp [averages, h.durations, h.sends, h.failures, h.outcomes]
  intro a ha
  exact ⟨hvariance a ha, Binary64.isNaN_sqrt (hvariance a ha)⟩

end Monitor

namespace Fleet

variable {f : Fleet Float}

theorem IsNew.hasVariances_run (hf : f.IsNew) (hooks : List (Hook Float)) :
    ∀ m ∈ (f.run hooks).monitors, m.HasVariances := by
  refine Monitor.invariant_hasVariances.run (fun _ _ => trivial) fun m hm => ?_
  obtain ⟨name, settings, now, hcreate⟩ := hf.2 m hm
  exact Monitor.hasVariances_of_create hcreate

/-- Whatever the clock reads, and whatever durations are given that are not negative, every start on
a monitor and every completion of a ticket is accepted in a run that the floats can count. After
every run, no variance of the four histories is negative and each of them is a number, so that all
deviations are numbers. -/
theorem recording_never_fails (hf : f.IsNew) (hooks : List (Hook Float))
    (hlength : hooks.length + 1 < 2 ^ 1023) :
    (∀ monitor < (f.run hooks).monitors.length, ∀ now : Float,
      ((f.run hooks).apply (.start monitor now)).isOk) ∧
    (∀ monitor < (f.run hooks).monitors.length, ∀ ticket < (f.run hooks).tickets.length,
      ∀ (success : Bool) (duration : Option Float) (now : Float),
        (∀ given, duration = some given → ¬ given < 0) →
          ((f.run hooks).apply (.complete monitor ticket success duration now)).isOk) ∧
    ∀ m ∈ (f.run hooks).monitors, ∀ a ∈ m.averages,
      0 ≤ a.variance ∧ a.deviation.isNaN = false := by
  have hready := hf.ready_run hooks
  refine ⟨fun monitor hmonitor now => ?_, ?_, fun m hm =>
    (hf.hasVariances_run hooks m hm).isNaN_deviation⟩
  · exact hready.isOk_start Binary64.countsBelow hlength hmonitor now
  · intro monitor hmonitor ticket hticket success duration now hadmits
    exact (hready.isOk_complete_iff Binary64.countsBelow hlength hmonitor hticket success duration
      now).mpr hadmits

/-- A clock that stands still, goes backwards and stops to read numbers, with a duration that is
infinite and one that is no number. -/
def erratic : List (Hook Float) :=
  [.start 0 1, .start 0 1, .complete 0 0 true (some (1 / 0)) (-1), .start 1 (0 / 0),
    .complete 1 2 false none (1 / 0), .complete 0 1 true (some (0 / 0)) (0 / 0)]

theorem recording_never_fails_erratic :
    pair.IsNew ∧ (pair.accepted erratic).length = 6 ∧
    ((pair.run erratic).apply (.start 1 (0 / 0))).isOk ∧
    ((pair.run erratic).apply (.complete 1 1 true (some (0 / 0)) 2)).isOk ∧
    ∀ m ∈ (pair.run erratic).monitors, ∀ a ∈ m.averages, 0 ≤ a.variance := by
  obtain ⟨hstart, hcomplete, hvariance⟩ :=
    recording_never_fails isNew_pair erratic (by decide +kernel)
  refine ⟨isNew_pair, by decide +kernel, hstart 1 (by decide +kernel) _,
    hcomplete 1 (by decide +kernel) 1 (by decide +kernel) true _ 2 ?_, fun m hm a ha => ?_⟩
  · intro given hgiven
    cases hgiven
    decide +kernel
  · exact (hvariance m hm a ha).1

end Fleet

end SendMeter
