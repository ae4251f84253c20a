import SendMeter.Monitor
import SendMeter.Proofs.History.Recorded

namespace SendMeter.Monitor

variable {α : Type} [Scalar α] {m after : Monitor α} {t taken : Ticket α}

theorem create_eq_ok {name : String} {s : Settings α} {now : α}
    (h : create name s now = .ok m) :
    ∃ durations sends failures outcomes, Durations.create s.window = .ok durations ∧
      Rate.create s.window s.periodUnit s.averagingPeriod none now = .ok sends ∧
      Rate.create s.window s.periodUnit s.averagingPeriod none now = .ok failures ∧
      Outcomes.create s.window = .ok outcomes ∧
      m = { name, settings := s, tally := .empty, durations, sends, failures, outcomes } := by
  unfold create at h
  obtain ⟨durations, hdurations, h⟩ := bind_eq_ok_iff.mp h
  obtain ⟨sends, hsends, h⟩ := bind_eq_ok_iff.mp h
  obtain ⟨failures, hfailures, h⟩ := bind_eq_ok_iff.mp h
  obtain ⟨outcomes, houtcomes, h⟩ := bind_eq_ok_iff.mp h
  cases h
  exact ⟨durations, sends, failures, outcomes, hdurations, hsends, hfailures, houtcomes, rfl⟩

theorem start_eq_ok {now : α} (h : m.start now = .ok (after, t)) :
    ∃ sends, m.sends.increment now = .ok sends ∧
      after = { m with tally := m.tally.addAttempt, sends } ∧
      t = { channel := m.name, startedAt := now, completed := false } := by
  rw [start_eq] at h
  obtain ⟨sends, hsends, h⟩ := bind_eq_ok_iff.mp h
  cases h
  exact ⟨sends, hsends, rfl, rfl⟩

theorem recordSuccess_eq_ok {duration now : α} (h : m.recordSuccess duration now = .ok after) :
    ∃ outcomes durations, m.outcomes.record true now = .ok outcomes ∧
      m.durations.append duration now = .ok durations ∧
      after = { m with outcomes, durations } := by
  rw [recordSuccess_eq] at h
  obtain ⟨outcomes, houtcomes, h⟩ := bind_eq_ok_iff.mp h
  obtain ⟨durations, hdurations, h⟩ := bind_eq_ok_iff.mp h
  cases h
  exact ⟨outcomes, durations, houtcomes, hdurations, rfl⟩

theorem recordFailure_eq_ok {now : α} (h : m.recordFailure now = .ok after) :
    ∃ outcomes failures, m.outcomes.record false now = .ok outcomes ∧
      m.failures.increment now = .ok failures ∧
      after = { m with tally := m.tally.addError, outcomes, failures } := by
  rw [recordFailure_eq] at h
  obtain ⟨outcomes, houtcomes, h⟩ := bind_eq_ok_iff.mp h
  obtain ⟨failures, hfailures, h⟩ := bind_eq_ok_iff.mp h
  cases h
  exact ⟨outcomes, failures, houtcomes, hfailures, rfl⟩

/-- A duration that a completion may be given: none, or one that is not negative. A duration that is
not a number is not negative. -/
def Admits (given : Option α) : Prop :=
  ∀ duration, given = some duration → ¬ duration < Scalar.zero

theorem filter_negative_eq_none_iff {given : Option α} :
    (given.filter fun duration => duration < Scalar.zero) = none ↔ Admits given := by
  simp only [Option.filter_eq_none_iff, decide_eq_true_eq]
  rfl

/-- An accepted completion had no negative duration. It left a ticket alone that was taken before;
an open ticket it took, with its outcome. -/
theorem complete_eq_ok {success : Bool} {given : Option α} {now : α}
    (h : m.complete t success given now = .ok (after, taken)) :
    Admits given ∧
      ((t.completed = true ∧ after = m ∧ taken = t) ∨
        (t.completed = false ∧ m.recordOutcome success (t.duration given now) now = .ok after ∧
          taken = { t with completed := true })) := by
  rw [complete_eq] at h
  cases hgiven : given.filter fun duration => duration < Scalar.zero with
  | some duration => simp [hgiven] at h
  | none =>
    refine ⟨filter_negative_eq_none_iff.mp hgiven, ?_⟩
    simp only [hgiven] at h
    cases hcompleted : t.completed with
    | true =>
      simp only [hcompleted, if_true] at h
      cases h
      exact .inl ⟨rfl, rfl, rfl⟩
    | false =>
      simp only [hcompleted, Bool.false_eq_true, if_false] at h
      cases hrecord : m.recordOutcome success (t.duration given now) now with
      | error e => simp [hrecord] at h
      | ok recorded =>
        rw [hrecord] at h
        cases h
        exact .inr ⟨rfl, rfl, rfl⟩

/-- Both rates of a monitor have a last event, or no events. -/
def Dated (m : Monitor α) : Prop :=
  m.sends.Dated ∧ m.failures.Dated

/-- All counts of a monitor. -/
structure HasCounts (m : Monitor α) (attempts successes failures : Nat) : Prop where
  total_eq : m.tally.total = attempts
  sends_eq : m.sends.average.count = attempts
  durations_eq : m.durations.average.count = successes
  errors_eq : m.tally.errors = failures
  failures_eq : m.failures.average.count = failures
  outcomes_eq : m.outcomes.average.count = successes + failures

variable {attempts successes failures : Nat}

theorem hasCounts_of_create {name : String} {s : Settings α} {now : α}
    (h : create name s now = .ok m) : m.HasCounts 0 0 0 ∧ m.Dated := by
  obtain ⟨durations, sends, errors, outcomes, hdurations, hsends, herrors, houtcomes, rfl⟩ :=
    create_eq_ok h
  have hsends := Rate.count_of_create hsends
  have herrors := Rate.count_of_create herrors
  exact ⟨⟨rfl, hsends, Durations.count_of_create hdurations, rfl, herrors,
    Outcomes.count_of_create houtcomes⟩, fun _ => hsends, fun _ => herrors⟩

theorem HasCounts.start (h : m.HasCounts attempts successes failures) (hdated : m.Dated) {now : α}
    (hstart : m.start now = .ok (after, t)) :
    after.HasCounts (attempts + 1) successes failures ∧ after.Dated := by
  obtain ⟨sends, hsends, rfl, -⟩ := start_eq_ok hstart
  have hcount := Rate.count_of_increment hdated.1 hsends
  rw [h.sends_eq] at hcount
  refine ⟨⟨?_, hcount, h.durations_eq, h.errors_eq, h.failures_eq, h.outcomes_eq⟩,
    Rate.dated_of_increment hsends, hdated.2⟩
  rw [Tally.total_addAttempt, h.total_eq]

theorem HasCounts.recordSuccess (h : m.HasCounts attempts successes failures) (hdated : m.Dated)
    {duration now : α} (hrecord : m.recordSuccess duration now = .ok after) :
    after.HasCounts attempts (successes + 1) failures ∧ after.Dated := by
  obtain ⟨outcomes, durations, houtcomes, hdurations, rfl⟩ := recordSuccess_eq_ok hrecord
  have hcount := Durations.count_of_append hdurations
  have hshare := Outcomes.count_of_record houtcomes
  rw [h.durations_eq] at hcount
  rw [h.outcomes_eq] at hshare
  exact ⟨⟨h.total_eq, h.sends_eq, hcount, h.errors_eq, h.failures_eq, by dsimp only; omega⟩, hdated⟩

theorem HasCounts.recordFailure (h : m.HasCounts attempts successes failures) (hdated : m.Dated)
    {now : α} (hrecord : m.recordFailure now = .ok after) :
    after.HasCounts attempts successes (failures + 1) ∧ after.Dated := by
  obtain ⟨outcomes, errors, houtcomes, herrors, rfl⟩ := recordFailure_eq_ok hrecord
  have hcount := Rate.count_of_increment hdated.2 herrors
  have hshare := Outcomes.count_of_record houtcomes
  rw [h.failures_eq] at hcount
  rw [h.outcomes_eq] at hshare
  refine ⟨⟨h.total_eq, h.sends_eq, h.durations_eq, ?_, hcount, by dsimp only; omega⟩,
    hdated.1, Rate.dated_of_increment herrors⟩
  rw [Tally.errors_addError, h.errors_eq]

/-- An outcome is counted once, as the success or as the failure that it is. -/
theorem HasCounts.recordOutcome (h : m.HasCounts attempts successes failures) (hdated : m.Dated)
    {success : Bool} {duration now : α}
    (hrecord : m.recordOutcome success duration now = .ok after) :
    after.HasCounts attempts (successes + success.toNat) (failures + (!success).toNat) ∧
      after.Dated := by
  cases success with
  | true => exact h.recordSuccess hdated hrecord
  | false => exact h.recordFailure hdated hrecord

end SendMeter.Monitor
