import SendMeter.Proofs.Fleet.Acceptance

namespace SendMeter.Fleet

section Ready

variable {α : Type} [Scalar α] {f : Fleet α}

theorem IsNew.ready (hf : f.IsNew) : f.Ready 0 := by
  intro m hm
  obtain ⟨name, settings, now, hcreate⟩ := hf.2 m hm
  exact Monitor.ready_of_create hcreate

theorem length_monitors_run (f : Fleet α) (hooks : List (Hook α)) :
    (f.run hooks).monitors.length = f.monitors.length := by
  induction hooks generalizing f with
  | nil => rfl
  | cons hook hooks ih => rw [run_cons, ih, length_monitors_after]

theorem IsNew.ready_run (hf : f.IsNew) (hooks : List (Hook α)) :
    (f.run hooks).Ready hooks.length := by
  have hready := hf.ready.run hooks
  rwa [Nat.zero_add] at hready

end Ready

variable {f : Fleet Float}

/-- No start is refused, so that all starts on a monitor are among the accepted ones. -/
theorem IsNew.startsOn_accepted (hf : f.IsNew) {hooks : List (Hook Float)}
    (hlength : hooks.length < 2 ^ 1023) {monitor : Nat} (hmonitor : monitor < f.monitors.length) :
    startsOn monitor (f.accepted hooks) = startsOn monitor hooks := by
  induction hooks using List.reverseRecOn with
  | nil => rfl
  | append_singleton hooks hook ih =>
    rw [List.length_append, List.length_singleton] at hlength
    have hprefix := ih (Nat.lt_of_succ_lt hlength)
    rw [accepted_concat, startsOn_concat]
    by_cases hstarts : hook.startsOn? = some monitor
    · have haccepted : ((f.run hooks).apply hook).isOk := by
        cases hook with
        | start started now =>
          cases hstarts
          rw [← length_monitors_run f hooks] at hmonitor
          exact (hf.ready_run hooks).isOk_start Binary64.countsBelow hlength hmonitor now
        | complete => cases hstarts
      rw [if_pos haccepted, startsOn_concat, hprefix]
    · rw [if_neg hstarts, Nat.add_zero]
      split
      · rw [startsOn_concat, if_neg hstarts, hprefix, Nat.add_zero]
      · rw [List.append_nil, hprefix]

/-- After every run, each monitor has counted the starts on it and the tickets whose first accepted
completion came to it, by the success of that completion. A completion that is accepted changes
nothing if its ticket had one before; if not, it records its outcome at its monitor and takes the
ticket. All outcomes and open tickets together are the starts. A run shorter than the limit of the
float counts has no start refused, and a completion only for a negative duration. -/
theorem counts_exactly_once (hf : f.IsNew) (hooks : List (Hook Float)) :
    (∀ (monitor : Nat) (m : Monitor Float), (f.run hooks).monitors[monitor]? = some m →
      m.sendCount = startsOn monitor (f.accepted hooks) ∧
      m.sends.average.count = startsOn monitor (f.accepted hooks) ∧
      m.durations.average.count =
        verdicts monitor true (f.run hooks).tickets.length (f.accepted hooks) ∧
      m.errorCount = verdicts monitor false (f.run hooks).tickets.length (f.accepted hooks) ∧
      m.failures.average.count = m.errorCount ∧
      m.outcomes.average.count = m.durations.average.count + m.errorCount) ∧
    (∀ (ticket : Nat) (t : Ticket Float), (f.run hooks).tickets[ticket]? = some t →
      t.completed = (verdict? ticket (f.accepted hooks)).isSome) ∧
    (∀ (monitor ticket : Nat) (success : Bool) (duration : Option Float) (now : Float)
      (g : Fleet Float),
      (f.run hooks).apply (.complete monitor ticket success duration now) = .ok g →
      ((verdict? ticket (f.accepted hooks)).isSome ∧ g = f.run hooks) ∨
      (verdict? ticket (f.accepted hooks) = none ∧ ∃ m t recorded,
        (f.run hooks).monitors[monitor]? = some m ∧ (f.run hooks).tickets[ticket]? = some t ∧
        m.recordOutcome success (t.duration duration now) now = .ok recorded ∧
        g = ⟨(f.run hooks).monitors.set monitor recorded,
          (f.run hooks).tickets.set ticket { t with completed := true }⟩)) ∧
    (f.run hooks).outcomes + (f.run hooks).openTickets =
      (f.accepted hooks).countP (fun hook => hook.startsOn?.isSome) ∧
    (hooks.length + 1 < 2 ^ 1023 →
      (∀ monitor < f.monitors.length,
        startsOn monitor (f.accepted hooks) = startsOn monitor hooks) ∧
      ∀ (monitor ticket : Nat) (success : Bool) (duration : Option Float) (now : Float),
        monitor < f.monitors.length → ticket < (f.run hooks).tickets.length →
        (((f.run hooks).apply (.complete monitor ticket success duration now)).isOk ↔
          ∀ given, duration = some given → ¬ given < 0)) := by
  have hbalanced := hf.balanced_run hooks
  refine ⟨?_, hbalanced.completed_eq, ?_, ?_, ?_⟩
  · intro monitor m hm
    obtain ⟨hcounts, -⟩ := hbalanced.hasCounts monitor m hm
    refine ⟨hcounts.total_eq, hcounts.sends_eq, hcounts.durations_eq, hcounts.errors_eq, ?_, ?_⟩
    · exact hcounts.failures_eq.trans hcounts.errors_eq.symm
    · have houtcomes := hcounts.outcomes_eq
      rw [← hcounts.durations_eq, ← hcounts.errors_eq] at houtcomes
      exact houtcomes
  · intro monitor ticket success duration now g hg
    obtain ⟨m, t, hm, ht, hcases⟩ := apply_complete_cases hg
    have hcompleted := hbalanced.completed_eq ticket t ht
    obtain ⟨htaken, rfl⟩ | ⟨hopen, recorded, hrecord, rfl⟩ := hcases
    · left
      rw [htaken] at hcompleted
      exact ⟨hcompleted.symm, rfl⟩
    · right
      rw [hopen] at hcompleted
      have hnone : verdict? ticket (f.accepted hooks) = none := by simpa using hcompleted.symm
      exact ⟨hnone, m, t, recorded, hm, ht, hrecord, rfl⟩
  · rw [hbalanced.outcomes_add_open, hbalanced.tickets_eq]
  · intro hlength
    refine ⟨fun monitor hmonitor => hf.startsOn_accepted (Nat.lt_of_succ_lt hlength) hmonitor, ?_⟩
    intro monitor ticket success duration now hmonitor hticket
    rw [← length_monitors_run f hooks] at hmonitor
    exact (hf.ready_run hooks).isOk_complete_iff Binary64.countsBelow hlength hmonitor hticket
      success duration now

/-- Two monitors with the standard settings. -/
def pair : Fleet Float :=
  ⟨["mail", "log"].filterMap fun name => (Monitor.create name Settings.standard 0).toOption, []⟩

/-- A ticket of the first monitor is completed at the second, with a duration that is refused, then
as a failure, and then once more where it came from. A second ticket ends as a success. -/
def crossing : List (Hook Float) :=
  [.start 0 1, .start 1 2, .complete 1 0 false (some (-1)) 3, .complete 1 0 false none 3,
    .complete 0 0 true none 4, .complete 1 1 true (some 2) 5]

theorem isNew_pair : pair.IsNew := by
  refine ⟨rfl, fun m hm => ?_⟩
  obtain ⟨name, -, hm⟩ := List.mem_filterMap.mp hm
  refine ⟨name, Settings.standard, 0, ?_⟩
  cases hcreate : Monitor.create name Settings.standard 0 with
  | error e => simp [hcreate, Except.toOption] at hm
  | ok created =>
    rw [hcreate] at hm
    cases hm
    rfl

theorem counts_exactly_once_crossing :
    pair.IsNew ∧ (pair.run crossing).monitors.length = 2 ∧ (pair.accepted crossing).length = 5 ∧
    (∀ m, (pair.run crossing).monitors[1]? = some m →
      m.sendCount = 1 ∧ m.durations.average.count = 1 ∧ m.errorCount = 1 ∧
      m.outcomes.average.count = 2) ∧
    (pair.run crossing).outcomes + (pair.run crossing).openTickets = 2 := by
  obtain ⟨hcounts, -, -, hsum, hall⟩ := counts_exactly_once isNew_pair crossing
  obtain ⟨hstarts, -⟩ := hall (by decide +kernel)
  refine ⟨isNew_pair, by decide +kernel, by decide +kernel, ?_, ?_⟩
  · intro m hm
    obtain ⟨hsends, -, hdurations, herrors, -, houtcomes⟩ := hcounts 1 m hm
    have hsuccesses : verdicts 1 true (pair.run crossing).tickets.length (pair.accepted crossing) =
        1 := by decide +kernel
    have hfailures : verdicts 1 false (pair.run crossing).tickets.length (pair.accepted crossing) =
        1 := by decide +kernel
    rw [hstarts 1 (by decide +kernel)] at hsends
    rw [hsuccesses] at hdurations
    rw [hfailures] at herrors
    rw [hdurations, herrors] at houtcomes
    exact ⟨hsends, hdurations, herrors, houtcomes⟩
  · rw [hsum]
    decide +kernel

end SendMeter.Fleet
