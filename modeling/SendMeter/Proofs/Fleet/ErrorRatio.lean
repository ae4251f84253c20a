import SendMeter.Proofs.Fleet.Completions
import SendMeter.Proofs.History.Shares

namespace SendMeter

namespace Monitor

variable {α : Type} [Scalar α] {m after : Monitor α}

theorem record_of_recordOutcome {success : Bool} {duration now : α}
    (h : m.recordOutcome success duration now = .ok after) :
    m.outcomes.record success now = .ok after.outcomes := by
  cases success with
  | true =>
    obtain ⟨outcomes, durations, houtcomes, -, rfl⟩ := recordSuccess_eq_ok h
    exact houtcomes
  | false =>
    obtain ⟨outcomes, failures, houtcomes, -, rfl⟩ := recordFailure_eq_ok h
    exact houtcomes

end Monitor

namespace Fleet

section Results

variable {α : Type} [Scalar α] {f : Fleet α} {monitor : Nat} {m : Monitor α} {hooks : List (Hook α)}

/-- Whether the completions that a run records at a monitor were successes, in order. -/
def resultsAt (f : Fleet α) (monitor : Nat) (hooks : List (Hook α)) : List Bool :=
  (f.completionsAt monitor hooks).map Completion.success

/-- The outcomes of a monitor are made of the results that the run records there. -/
theorem recordAll_run {m₀ : Monitor α} (hm₀ : f.monitors[monitor]? = some m₀)
    (hm : (f.run hooks).monitors[monitor]? = some m) :
    m₀.outcomes.recordAll ((f.completionsAt monitor hooks).map fun c => (c.success, c.now)) =
      .ok m.outcomes := by
  refine completionsAt_induction
    (P := fun completions m =>
      m₀.outcomes.recordAll (completions.map fun c => (c.success, c.now)) = .ok m.outcomes)
    hm₀ rfl (fun h houtcomes _ => houtcomes ▸ h) ?_ hm
  intro completions m after c h hrecord
  rw [List.map_append, List.map_singleton, Outcomes.recordAll_concat h]
  exact Monitor.record_of_recordOutcome hrecord

/-- The completion of an open ticket records one more result. -/
theorem resultsAt_concat_of_open {ticket : Nat} {t : Ticket α} {success : Bool}
    {duration : Option α} {now : α} (ht : (f.run hooks).tickets[ticket]? = some t)
    (hopen : t.completed = false) {g : Fleet α}
    (hg : (f.run hooks).apply (.complete monitor ticket success duration now) = .ok g) :
    f.resultsAt monitor (hooks ++ [.complete monitor ticket success duration now]) =
      f.resultsAt monitor hooks ++ [success] := by
  rw [resultsAt, completionsAt_concat, completion?_of_ok ht hg, if_pos ⟨rfl, hopen⟩,
    Option.toList_some, List.map_append]
  rfl

end Results

variable {f : Fleet Rat} {monitor : Nat} {m₀ : Monitor Rat}

/-- What is known of the outcomes of a monitor of a new fleet after a run. -/
theorem IsNew.exists_hasResults (hf : f.IsNew) (hm₀ : f.monitors[monitor]? = some m₀)
    (hooks : List (Hook Rat)) :
    1 ≤ m₀.settings.window ∧ ∃ m, (f.run hooks).monitors[monitor]? = some m ∧
      m.outcomes.HasResults m₀.settings.window (f.resultsAt monitor hooks) := by
  obtain ⟨name, settings, created, hcreate⟩ := hf.2 m₀ (List.mem_of_getElem? hm₀)
  obtain ⟨durations, sends, failures, outcomes, -, -, -, houtcomes, rfl⟩ :=
    Monitor.create_eq_ok hcreate
  obtain ⟨hwindow, rfl⟩ := Outcomes.eq_initial_of_create houtcomes
  have hlt : monitor < (f.run hooks).monitors.length := by
    rw [length_monitors_run]
    exact (List.getElem?_eq_some_iff.mp hm₀).1
  have hm := List.getElem?_eq_getElem hlt
  have hresults := Outcomes.hasResults_of_recordAll hwindow (recordAll_run hm₀ hm)
  rw [List.map_map] at hresults
  exact ⟨hwindow, _, hm, hresults⟩

/-- A monitor of a new fleet after any hooks. Its error ratio is between zero and one, and zero
before any result. From a window of two on it is zero exactly if all results that were recorded are
successes, and one exactly if all are failures; under a window of one it is zero or one, as the last
result is. As long as twice the number of results is at most the window and one more, it is the
plain share of the failures. The results are those of the completions of open tickets at the
monitor, and none of these is refused unless its duration is negative. -/
theorem errorRatio_of_results (hf : f.IsNew) (hm₀ : f.monitors[monitor]? = some m₀)
    (hooks : List (Hook Rat)) :
    ∃ m, (f.run hooks).monitors[monitor]? = some m ∧
      0 ≤ m.errorRatio ∧ m.errorRatio ≤ 1 ∧
      (f.resultsAt monitor hooks = [] → m.errorRatio = 0) ∧
      (2 ≤ m₀.settings.window → f.resultsAt monitor hooks ≠ [] →
        (m.errorRatio = 0 ↔ ∀ success ∈ f.resultsAt monitor hooks, success = true) ∧
        (m.errorRatio = 1 ↔ ∀ success ∈ f.resultsAt monitor hooks, success = false)) ∧
      (m₀.settings.window = 1 → ∀ last, (f.resultsAt monitor hooks).getLast? = some last →
        m.errorRatio = if last then 0 else 1) ∧
      (f.resultsAt monitor hooks ≠ [] →
        2 * (f.resultsAt monitor hooks).length ≤ m₀.settings.window + 1 →
        m.errorRatio = (f.resultsAt monitor hooks).count false /
          (f.resultsAt monitor hooks).length) ∧
      ∀ (ticket : Nat) (t : Ticket Rat) (success : Bool) (duration : Option Rat) (now : Rat),
        (f.run hooks).tickets[ticket]? = some t → t.completed = false → Monitor.Admits duration →
        ((f.run hooks).apply (.complete monitor ticket success duration now)).isOk ∧
        f.resultsAt monitor (hooks ++ [.complete monitor ticket success duration now]) =
          f.resultsAt monitor hooks ++ [success] := by
  obtain ⟨hwindow, m, hm, hresults⟩ := hf.exists_hasResults hm₀ hooks
  obtain ⟨hlow, hhigh⟩ := hresults.errorRatio_bounds hwindow
  refine ⟨m, hm, hlow, hhigh, fun hempty => ?_, fun htwo hne => ?_, fun hone last hlast => ?_,
    fun hne hcold => hresults.errorRatio_of_cold hwindow hne hcold, ?_⟩
  · rw [hempty] at hresults
    exact hresults.errorRatio_nil
  · exact ⟨hresults.errorRatio_eq_zero_iff htwo hne, hresults.errorRatio_eq_one_iff htwo hne⟩
  · rw [hone] at hresults
    exact hresults.errorRatio_of_window_one hlast
  · intro ticket t success duration now ht hopen hadmits
    obtain ⟨recorded, -, hg⟩ := exists_apply_complete_of_open (Scalar.countsBelow_rat _)
      (hf.ready_run hooks) (Nat.lt_succ_self _) hm ht hopen success hadmits now
    exact ⟨isOk_iff_exists.mpr ⟨_, hg⟩, resultsAt_concat_of_open ht hopen hg⟩

/-- One monitor, if its settings are accepted. -/
def single (name : String) (s : Settings Rat) (created : Rat) : Fleet Rat :=
  ⟨(Monitor.create name s created).toOption.toList, []⟩

theorem isNew_single (name : String) (s : Settings Rat) (created : Rat) :
    (single name s created).IsNew := by
  refine ⟨rfl, fun m hm => ⟨name, s, created, ?_⟩⟩
  exact toOption_eq_some_iff.mp (Option.mem_toList.mp hm)

/-- A send that fails, with a second completion that is ignored, and one that succeeds. -/
def failureAndSuccess : List (Hook Rat) :=
  [.start 0 1, .complete 0 0 false none 2, .complete 0 0 true none 2, .start 0 3,
    .complete 0 1 true none 4]

/-- Under a window of three the average is cold for two results. -/
theorem errorRatio_of_results_failureAndSuccess :
    (single "mail" ⟨3, 1, 60⟩ 0).resultsAt 0 failureAndSuccess = [false, true] ∧
    ∃ m, ((single "mail" ⟨3, 1, 60⟩ 0).run failureAndSuccess).monitors[0]? = some m ∧
      m.errorRatio = 1 / 2 := by
  have hresults : (single "mail" ⟨3, 1, 60⟩ 0).resultsAt 0 failureAndSuccess = [false, true] := by
    decide +kernel
  have hmap : ((single "mail" ⟨3, 1, 60⟩ 0).monitors[0]?).map (·.settings.window) = some 3 := by
    decide +kernel
  obtain ⟨m₀, hm₀, hwindow⟩ := Option.map_eq_some_iff.mp hmap
  obtain ⟨m, hm, -, -, -, -, -, hcold, -⟩ := errorRatio_of_results
    (isNew_single "mail" ⟨3, 1, 60⟩ 0) hm₀ failureAndSuccess
  rw [hresults, hwindow] at hcold
  refine ⟨hresults, m, hm, ?_⟩
  rw [hcold (by simp) (by simp)]
  simp

end Fleet

end SendMeter
