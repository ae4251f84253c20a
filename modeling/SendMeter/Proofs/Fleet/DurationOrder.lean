import SendMeter.Proofs.Fleet.Completions
import SendMeter.Proofs.History.Extremes

namespace SendMeter

variable {α : Type} [Scalar α]

/-- The duration that a call records at a monitor: the one of the send whose open ticket it
completes there with success. -/
def Call.duration? (monitor : Nat) (c : Call α) : Option α :=
  match c.hook with
  | .start _ _ => none
  | .complete settler ticket success duration now =>
    match c.fleet.tickets[ticket]? with
    | none => none
    | some t =>
      if settler = monitor ∧ success = true ∧ t.completed = false ∧ c.answer.isOk then
        some (t.duration duration now)
      else none

namespace Fleet

/-- The durations that a run records at a monitor, in order. -/
def durations (f : Fleet α) (monitor : Nat) (hooks : List (Hook α)) : List α :=
  (f.calls hooks).filterMap (Call.duration? monitor)

/-- A call records a duration if it records a success. -/
theorem duration?_eq (monitor : Nat) (c : Call α) :
    c.duration? monitor = (c.completion? monitor).bind Completion.added? := by
  obtain ⟨g, h⟩ := c
  cases h with
  | start started now => rfl
  | complete settler ticket success duration now =>
    simp only [Call.duration?, Call.completion?]
    cases g.tickets[ticket]? with
    | none => rfl
    | some t =>
      cases success with
      | true =>
        simp only [true_and]
        split <;> rfl
      | false =>
        simp only [Bool.false_eq_true, false_and, and_false, if_false]
        split <;> rfl

theorem durations_eq (f : Fleet α) (monitor : Nat) (hooks : List (Hook α)) :
    f.durations monitor hooks = (f.completionsAt monitor hooks).filterMap Completion.added? := by
  rw [durations, completionsAt, List.filterMap_filterMap]
  exact List.filterMap_congr fun c _ => duration?_eq monitor c

variable {f : Fleet α} {monitor : Nat} {m : Monitor α} {hooks : List (Hook α)}

/-- The duration history of a monitor is made of the durations that the run records there. -/
theorem records_run {m₀ : Monitor α} (hm₀ : f.monitors[monitor]? = some m₀)
    (hm : (f.run hooks).monitors[monitor]? = some m) :
    m₀.durations.Records (f.durations monitor hooks) m.durations := by
  rw [durations_eq]
  refine completionsAt_induction
    (P := fun completions m =>
      m₀.durations.Records (completions.filterMap Completion.added?) m.durations) hm₀ .nil
    (fun h _ hdurations => hdurations ▸ h) ?_ hm
  intro completions m after c h hrecord
  rw [List.filterMap_append]
  obtain ⟨success, duration, now⟩ := c
  cases success with
  | true =>
    obtain ⟨outcomes, durations, -, hdurations, rfl⟩ := Monitor.recordSuccess_eq_ok hrecord
    exact .concat h hdurations
  | false =>
    obtain ⟨outcomes, failures, -, -, rfl⟩ := Monitor.recordFailure_eq_ok hrecord
    simpa [Completion.added?] using h

/-- A duration that was recorded is not negative: it was given as such, or it is the time since the
start, which is at least zero. -/
theorem not_lt_zero_of_mem_durations {f : Fleet Float} {hooks : List (Hook Float)} {value : Float}
    (hvalue : value ∈ f.durations monitor hooks) : ¬ value < 0 := by
  obtain ⟨⟨g, h⟩, -, hduration⟩ := List.mem_filterMap.mp hvalue
  cases h with
  | start started now => cases hduration
  | complete settler ticket success duration now =>
    simp only [Call.duration?] at hduration
    split at hduration
    · cases hduration
    next t ht =>
      split at hduration
      next hrecorded =>
        obtain ⟨-, -, -, hok⟩ := hrecorded
        obtain ⟨after, hafter⟩ := isOk_iff_exists.mp hok
        obtain ⟨m, t', completed, taken, -, -, hcomplete, -⟩ := apply_complete_eq_ok hafter
        cases hduration
        cases duration with
        | some given => exact (Monitor.complete_eq_ok hcomplete).1 given rfl
        | none =>
          have hnonneg := Scalar.zero_le_maximum (now - t.startedAt)
          obtain ⟨hzero, hnan⟩ := Binary64.isNaN_of_le hnonneg
          intro hlt
          have hlt' := (Binary64.lt_iff hnan hzero).mp hlt
          exact absurd ((Binary64.le_iff hzero hnan).mp hnonneg) (not_le.mpr hlt')
      · cases hduration

/-- At every monitor that has recorded a duration, whatever durations were accepted, zero, the
shortest duration, the mean and the longest one are in order if and only if all durations but the
last one are finite and the last one is a number. After an infinite duration the next one leaves no
mean, and so does a duration that is no number. -/
theorem durations_ordered_iff {f : Fleet Float} (hf : f.IsNew) {hooks : List (Hook Float)}
    {m : Monitor Float} (hm : (f.run hooks).monitors[monitor]? = some m)
    (hrecorded : f.durations monitor hooks ≠ []) :
    (0 ≤ m.minDuration ∧ m.minDuration ≤ m.meanDuration ∧ m.meanDuration ≤ m.maxDuration) ↔
      (∀ duration ∈ (f.durations monitor hooks).dropLast, duration.isFinite = true) ∧
        ((f.durations monitor hooks).getLast hrecorded).isNaN = false := by
  have hlength : monitor < f.monitors.length := by
    have hlt := (List.getElem?_eq_some_iff.mp hm).1
    rwa [length_monitors_run] at hlt
  have hm₀ := List.getElem?_eq_getElem hlength
  obtain ⟨name, settings, now, hcreate⟩ := hf.2 _ (List.getElem_mem hlength)
  obtain ⟨new, sends, failures, outcomes, hnew, -, -, -, heq⟩ := Monitor.create_eq_ok hcreate
  have hrecords := records_run hm₀ hm
  rw [heq] at hrecords
  have hiff := Durations.ordered_iff_of_records hnew
    (fun value hvalue => not_lt_zero_of_mem_durations hvalue) hrecorded hrecords
  have hordered : m.durations.Ordered ↔
      0 ≤ m.minDuration ∧ m.minDuration ≤ m.meanDuration ∧ m.meanDuration ≤ m.maxDuration :=
    ⟨fun h => ⟨h.zero_le, h.minimum_le, h.le_maximum⟩, fun h => ⟨h.1, h.2.1, h.2.2⟩⟩
  rw [← hordered, hiff, Durations.Orderly, List.getLast?_eq_some_getLast hrecorded]
  simp

/-- A send that took forever, and one that took a second. -/
def endless : List (Hook Float) :=
  [.start 0 0, .complete 0 0 true (some (1 / 0)) 0, .start 0 1, .complete 0 1 true (some 1) 1]

/-- The infinite duration alone leaves the statistics in order. -/
theorem durations_ordered_iff_endless :
    pair.IsNew ∧ pair.durations 0 (endless.take 2) = [1 / 0] ∧
    ∀ m ∈ (pair.run (endless.take 2)).monitors[0]?,
      0 ≤ m.minDuration ∧ m.minDuration ≤ m.meanDuration ∧ m.meanDuration ≤ m.maxDuration := by
  have hdurations : pair.durations 0 (endless.take 2) = [1 / 0] := by decide +kernel
  refine ⟨isNew_pair, hdurations, fun m hm => ?_⟩
  refine (durations_ordered_iff isNew_pair hm (by rw [hdurations]; simp)).mpr ?_
  simp only [hdurations, List.getLast_singleton]
  exact ⟨by simp, by decide +kernel⟩

/-- The order is lost: after the second send there is no mean. -/
theorem durations_not_ordered :
    ¬ ∀ (f : Fleet Float) (hooks : List (Hook Float)) (monitor : Nat) (m : Monitor Float), f.IsNew →
      (f.run hooks).monitors[monitor]? = some m → f.durations monitor hooks ≠ [] →
        0 ≤ m.minDuration ∧ m.minDuration ≤ m.meanDuration ∧ m.meanDuration ≤ m.maxDuration := by
  intro h
  have hnot : ∀ m ∈ (pair.run endless).monitors[0]?, ¬ m.minDuration ≤ m.meanDuration := by
    decide +kernel
  have hsome : ((pair.run endless).monitors[0]?).isSome := by decide +kernel
  obtain ⟨m, hm⟩ := Option.isSome_iff_exists.mp hsome
  have hrecorded : pair.durations 0 endless = [1 / 0, 1] := by decide +kernel
  exact hnot m hm (h pair endless 0 m isNew_pair hm (by rw [hrecorded]; simp)).2.1

end Fleet

end SendMeter
