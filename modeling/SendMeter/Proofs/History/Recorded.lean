import SendMeter.History.Durations
import SendMeter.History.Outcomes
import SendMeter.History.Rate

namespace SendMeter

variable {α : Type} [Scalar α]

/-- A computation in two steps succeeds exactly if both steps do. -/
theorem bind_eq_ok_iff {ε β γ : Type} {x : Except ε β} {f : β → Except ε γ} {y : γ} :
    x >>= f = .ok y ↔ ∃ a, x = .ok a ∧ f a = .ok y := by
  cases x with
  | error e => simp [bind, Except.bind]
  | ok a => simp [bind, Except.bind]

theorem map_eq_ok_iff {ε β γ : Type} {x : Except ε β} {f : β → γ} {y : γ} :
    x.map f = .ok y ↔ ∃ a, x = .ok a ∧ f a = y := by
  cases x with
  | error e => simp [Except.map]
  | ok a => simp [Except.map]

theorem isOk_iff_exists {ε β : Type} {x : Except ε β} : x.isOk ↔ ∃ y, x = .ok y := by
  cases x with
  | error e => simp [Except.isOk, Except.toBool]
  | ok y => simp [Except.isOk, Except.toBool]

theorem toOption_eq_some_iff {ε β : Type} {x : Except ε β} {y : β} :
    x.toOption = some y ↔ x = .ok y := by
  cases x with
  | error e => simp [Except.toOption]
  | ok z => simp [Except.toOption]

@[simp] theorem mapError_error {ε ε' β : Type} (f : ε → ε') (e : ε) :
    (Except.error e : Except ε β).mapError f = .error (f e) := rfl

@[simp] theorem mapError_ok {ε ε' β : Type} (f : ε → ε') (y : β) :
    (Except.ok y : Except ε β).mapError f = .ok y := rfl

theorem mapError_eq_ok_iff {ε ε' β : Type} {x : Except ε β} {f : ε → ε'} {y : β} :
    x.mapError f = .ok y ↔ x = .ok y := by
  cases x with
  | error e => simp
  | ok a => simp

/-- A run in two parts goes on from where its first part ends. -/
theorem foldlM_append_of_ok {ε β γ : Type} {f : β → γ → Except ε β} {b c : β} {xs : List γ}
    (h : xs.foldlM f b = .ok c) (ys : List γ) : (xs ++ ys).foldlM f b = ys.foldlM f c := by
  rw [List.foldlM_append, h]
  rfl

theorem foldlM_concat_of_ok {ε β γ : Type} {f : β → γ → Except ε β} {b c : β} {xs : List γ}
    (h : xs.foldlM f b = .ok c) (y : γ) : (xs ++ [y]).foldlM f b = f c y := by
  rw [foldlM_append_of_ok h]
  exact bind_pure (f c y)

namespace Average

theorem blend_eq_ok {a b : Average α} {value : α} {samples : Nat}
    (h : a.blend value samples = .ok b) :
    ∃ weight, a.weight samples = .ok weight ∧ b = a.fold weight value := by
  unfold blend at h
  obtain ⟨weight, hweight, hfold⟩ := bind_eq_ok_iff.mp h
  cases hfold
  exact ⟨weight, hweight, rfl⟩

theorem append_eq_ok {a b : Average α} {value now : α} (h : a.append value now = .ok b) :
    ∃ weight, a.weight (a.count + 1) = .ok weight ∧
      b = { a.fold weight value with count := a.count + 1, lastUpdate := some now } := by
  unfold append at h
  obtain ⟨blended, hblended, hb⟩ := bind_eq_ok_iff.mp h
  obtain ⟨weight, hweight, rfl⟩ := blend_eq_ok hblended
  cases hb
  exact ⟨weight, hweight, rfl⟩

theorem count_of_append {a b : Average α} {value now : α} (h : a.append value now = .ok b) :
    b.count = a.count + 1 := by
  obtain ⟨weight, -, rfl⟩ := append_eq_ok h
  rfl

/-- An average is created empty, for a window that is positive. -/
theorem create_eq_ok {window : Int} {a : Average α} (h : create window = .ok a) :
    1 ≤ window ∧ ∃ alpha, steadyWeight window = .ok alpha ∧ a = empty window.toNat alpha := by
  unfold create at h
  split at h
  · cases h
  next hwindow =>
    split at h
    · cases h
    next alpha halpha =>
      cases h
      exact ⟨by omega, alpha, halpha, rfl⟩

theorem count_of_create {window : Int} {a : Average α} (h : create window = .ok a) :
    a.count = 0 := by
  obtain ⟨-, alpha, -, rfl⟩ := create_eq_ok h
  rfl

end Average

namespace Durations

/-- A recorded duration goes into the average, the mean of which is then clamped, and into both
extremes. -/
theorem append_eq_ok {d e : Durations α} {value now : α} (h : d.append value now = .ok e) :
    ∃ average, d.average.append value now = .ok average ∧
      e = {
        average := { average with
          mean := clamp (lowered d.shortest value) (raised d.longest value) average.mean }
        shortest := some (lowered d.shortest value)
        longest := some (raised d.longest value) } := by
  unfold append at h
  obtain ⟨average, haverage, he⟩ := bind_eq_ok_iff.mp h
  cases he
  exact ⟨average, haverage, rfl⟩

theorem count_of_append {d e : Durations α} {value now : α} (h : d.append value now = .ok e) :
    e.average.count = d.average.count + 1 := by
  obtain ⟨average, haverage, rfl⟩ := append_eq_ok h
  have hcount := Average.count_of_append haverage
  exact hcount

theorem count_of_create {window : Int} {d : Durations α} (h : create window = .ok d) :
    d.average.count = 0 := by
  unfold create at h
  cases haverage : (Average.create window : Except (HistoryError α) (Average α)) with
  | error e => simp [haverage, Except.map] at h
  | ok average =>
    rw [haverage] at h
    cases h
    exact Average.count_of_create haverage

end Durations

namespace Outcomes

theorem record_eq_ok {o p : Outcomes α} {success : Bool} {now : α}
    (h : o.record success now = .ok p) :
    ∃ average, o.average.append (valueOf success) now = .ok average ∧ p = { average } := by
  unfold record at h
  obtain ⟨average, haverage, hp⟩ := bind_eq_ok_iff.mp h
  cases hp
  exact ⟨average, haverage, rfl⟩

theorem count_of_record {o p : Outcomes α} {success : Bool} {now : α}
    (h : o.record success now = .ok p) : p.average.count = o.average.count + 1 := by
  obtain ⟨average, haverage, rfl⟩ := record_eq_ok h
  exact Average.count_of_append haverage

theorem count_of_create {window : Int} {o : Outcomes α} (h : create window = .ok o) :
    o.average.count = 0 := by
  unfold create at h
  cases haverage : (Average.create window : Except (HistoryError α) (Average α)) with
  | error e => simp [haverage, Except.map] at h
  | ok average =>
    rw [haverage] at h
    cases h
    exact Average.count_of_create haverage

end Outcomes

namespace Rate

/-- A rate that has no last event has no events. The first event sets the count to one, which
counts it only because of this. -/
def Dated (r : Rate α) : Prop :=
  r.average.lastUpdate = none → r.average.count = 0

/-- What an event does to a rate: the first one is the seed, a later one is folded in if it has a
gap, and only counts if it has none. -/
theorem increment_eq_ok {r s : Rate α} {now : α} (h : r.increment now = .ok s) :
    (r.average.lastUpdate = none ∧ ∃ mean,
      Scalar.divide r.periodUnit (r.firstInterval now) = .ok mean ∧
      s = { r with
        average := { r.average with
          count := 1, mean, variance := Scalar.zero, lastUpdate := some now }
        firstUpdate := some now }) ∨
    (∃ last sample average, r.average.lastUpdate = some last ∧ Scalar.zero < now - last ∧
      Scalar.divide r.periodUnit (now - last) = .ok sample ∧
      Average.blend { r.average with count := r.average.count + 1, lastUpdate := some now }
        sample (r.intervals + 1) = .ok average ∧
      s = { r with average, intervals := r.intervals + 1 }) ∨
    (∃ last, r.average.lastUpdate = some last ∧ ¬ Scalar.zero < now - last ∧
      s = { r with
        average := { r.average with count := r.average.count + 1, lastUpdate := some now } }) := by
  unfold increment at h
  cases hlast : r.average.lastUpdate with
  | none =>
    simp only [hlast] at h
    unfold start at h
    obtain ⟨mean, hmean, hs⟩ := bind_eq_ok_iff.mp h
    cases hs
    exact .inl ⟨rfl, mean, hmean, rfl⟩
  | some last =>
    simp only [hlast] at h
    by_cases hgap : Scalar.zero < now - last
    · simp only [next, if_pos hgap] at h
      obtain ⟨sample, hsample, h⟩ := bind_eq_ok_iff.mp h
      obtain ⟨average, haverage, hs⟩ := bind_eq_ok_iff.mp h
      cases hs
      exact .inr (.inl ⟨last, sample, average, rfl, hgap, hsample, haverage, rfl⟩)
    · rw [next_of_not_lt r hgap] at h
      cases h
      exact .inr (.inr ⟨last, rfl, hgap, rfl⟩)

theorem count_of_increment {r s : Rate α} (hdated : r.Dated) {now : α}
    (h : r.increment now = .ok s) : s.average.count = r.average.count + 1 := by
  obtain ⟨hlast, mean, -, rfl⟩ | ⟨last, sample, average, -, -, -, haverage, rfl⟩ |
    ⟨last, -, -, rfl⟩ := increment_eq_ok h
  · rw [hdated hlast]
  · obtain ⟨weight, -, rfl⟩ := Average.blend_eq_ok haverage
    rfl
  · rfl

/-- Every event is the last one so far. -/
theorem lastUpdate_of_increment {r s : Rate α} {now : α} (h : r.increment now = .ok s) :
    s.average.lastUpdate = some now := by
  obtain ⟨-, mean, -, rfl⟩ | ⟨last, sample, average, -, -, -, haverage, rfl⟩ |
    ⟨last, -, -, rfl⟩ := increment_eq_ok h
  · rfl
  · obtain ⟨weight, -, rfl⟩ := Average.blend_eq_ok haverage
    rfl
  · rfl

theorem dated_of_increment {r s : Rate α} {now : α} (h : r.increment now = .ok s) : s.Dated := by
  intro hnone
  rw [lastUpdate_of_increment h] at hnone
  cases hnone

/-- A rate is created from a new average and from settings none of which is zero or less. -/
theorem create_eq_ok {window : Int} {periodUnit averagingPeriod now : α}
    {initialInterval : Option α} {r : Rate α}
    (h : create window periodUnit averagingPeriod initialInterval now = .ok r) :
    ∃ average, Average.create window = .ok average ∧
      ¬ periodUnit ≤ Scalar.zero ∧ ¬ averagingPeriod ≤ Scalar.zero ∧
      ¬ initialInterval.getD periodUnit ≤ Scalar.zero ∧
      r = {
        average, periodUnit, averagingPeriod
        initialInterval := initialInterval.getD periodUnit
        createdAt := now
        firstUpdate := none
        intervals := 0 } := by
  unfold create at h
  cases haverage : (Average.create window : Except (HistoryError α) (Average α)) with
  | error e => simp [haverage] at h
  | ok average =>
    simp only [haverage] at h
    split at h
    · cases h
    next hunit =>
      split at h
      · cases h
      next hperiod =>
        split at h
        · cases h
        next hinterval =>
          cases h
          refine ⟨average, rfl, hunit, hperiod, ?_, rfl⟩
          cases initialInterval with
          | none => exact hunit
          | some interval =>
            simp only [Option.filter_eq_none_iff, Option.some.injEq, decide_eq_true_eq] at hinterval
            exact hinterval interval rfl

theorem count_of_create {window : Int} {periodUnit averagingPeriod now : α}
    {initialInterval : Option α} {r : Rate α}
    (h : create window periodUnit averagingPeriod initialInterval now = .ok r) :
    r.average.count = 0 := by
  obtain ⟨average, haverage, -, -, -, rfl⟩ := create_eq_ok h
  exact Average.count_of_create haverage

end Rate

end SendMeter
