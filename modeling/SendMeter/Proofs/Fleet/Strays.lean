import SendMeter.Proofs.Fleet.ExactlyOnce

namespace SendMeter

variable {α : Type}

/-- The monitor that gave out a ticket. Tickets are numbered by the starts. -/
def issuer? (ticket : Nat) (hooks : List (Hook α)) : Option Nat :=
  (hooks.filterMap Hook.startsOn?)[ticket]?

/-- The number of tickets, out of the first so many, that were first completed at a monitor as
failures, and were given out by another one. -/
def strays (monitor tickets : Nat) (hooks : List (Hook α)) : Nat :=
  (List.range tickets).countP fun ticket =>
    verdict? ticket hooks = some (monitor, false) ∧ issuer? ticket hooks ≠ some monitor

private theorem countP_range_getElem? {β : Type} [DecidableEq β] (xs : List β) (a : β) :
    (List.range xs.length).countP (fun i => xs[i]? = some a) = xs.count a := by
  induction xs using List.reverseRecOn with
  | nil => rfl
  | append_singleton xs x ih =>
    have hprefix : (List.range xs.length).countP (fun i => (xs ++ [x])[i]? = some a) =
        (List.range xs.length).countP (fun i => xs[i]? = some a) := by
      refine List.countP_congr fun i hi => ?_
      rw [List.getElem?_append_left (List.mem_range.mp hi)]
    rw [List.length_append, List.length_singleton, List.range_succ, List.countP_append, hprefix, ih,
      List.count_append, List.countP_singleton, List.count_singleton]
    simp

theorem count_filterMap_startsOn? (monitor : Nat) (hooks : List (Hook α)) :
    (hooks.filterMap Hook.startsOn?).count monitor = startsOn monitor hooks := by
  unfold startsOn
  rw [List.count, List.countP_filterMap]
  refine List.countP_congr fun h _ => ?_
  cases h.startsOn? with
  | none => simp
  | some started => simp

/-- The starts on a monitor are the tickets that it gave out. -/
theorem countP_issuer?_eq_startsOn (monitor : Nat) (hooks : List (Hook α)) :
    (List.range (hooks.countP fun h => h.startsOn?.isSome)).countP
      (fun ticket => issuer? ticket hooks = some monitor) = startsOn monitor hooks := by
  unfold issuer?
  rw [← List.length_filterMap_eq_countP, countP_range_getElem?, count_filterMap_startsOn?]

/-- What has one property has another one, or lacks it. -/
theorem countP_le_countP_add_countP {β : Type} (p q : β → Prop) [DecidablePred p] [DecidablePred q]
    (xs : List β) :
    xs.countP (p ·) ≤ xs.countP (q ·) + xs.countP (fun x => p x ∧ ¬ q x) := by
  induction xs with
  | nil => exact Nat.le_refl 0
  | cons x xs ih =>
    simp only [List.countP_cons, decide_eq_true_eq]
    by_cases hp : p x <;> by_cases hq : q x <;>
      simp only [hp, hq, not_true_eq_false, not_false_eq_true, and_true, and_false, if_true,
        if_false] <;> omega

theorem verdicts_false_le (monitor tickets : Nat) (hooks : List (Hook α)) :
    verdicts monitor false tickets hooks ≤
      (List.range tickets).countP (fun ticket => issuer? ticket hooks = some monitor) +
        strays monitor tickets hooks :=
  countP_le_countP_add_countP (fun ticket => verdict? ticket hooks = some (monitor, false))
    (fun ticket => issuer? ticket hooks = some monitor) (List.range tickets)

theorem strays_eq_zero {monitor tickets : Nat} {hooks : List (Hook α)}
    (hhome : ∀ ticket < tickets, verdict? ticket hooks = some (monitor, false) →
      issuer? ticket hooks = some monitor) : strays monitor tickets hooks = 0 := by
  unfold strays
  rw [List.countP_eq_zero]
  intro ticket hticket hstray
  obtain ⟨hverdict, hissuer⟩ := of_decide_eq_true hstray
  exact hissuer (hhome ticket (List.mem_range.mp hticket) hverdict)

namespace Fleet

variable [Scalar α] {f : Fleet α}

omit [Scalar α] in
/-- All failures that the monitors recorded are among their outcomes. -/
theorem Balanced.sum_errorCount_le {hooks : List (Hook α)} (h : Balanced hooks f) :
    (f.monitors.map Monitor.errorCount).sum ≤ f.tickets.length := by
  have hle : (f.monitors.map Monitor.errorCount).sum ≤ f.outcomes := by
    refine List.sum_le_sum fun m hm => ?_
    obtain ⟨monitor, hmonitor⟩ := List.mem_iff_getElem?.mp hm
    obtain ⟨hcounts, -⟩ := h.hasCounts monitor m hmonitor
    have herrors := hcounts.errors_eq
    have houtcomes := hcounts.outcomes_eq
    unfold Monitor.errorCount
    omega
  have hsum := h.outcomes_add_open
  omega

/-- After every run, the failures of a monitor are at most its sends and its strays; a monitor that
got no failure of another one's ticket has at most as many failures as sends. The failures of all
monitors together are at most the sends of the run, whatever tickets came to which of them. -/
theorem errorCount_le_sendCount_add_strays (hf : f.IsNew) (hooks : List (Hook α)) :
    (∀ (monitor : Nat) (m : Monitor α), (f.run hooks).monitors[monitor]? = some m →
      m.errorCount ≤
          m.sendCount + strays monitor (f.run hooks).tickets.length (f.accepted hooks) ∧
        ((∀ ticket < (f.run hooks).tickets.length,
            verdict? ticket (f.accepted hooks) = some (monitor, false) →
              issuer? ticket (f.accepted hooks) = some monitor) →
          m.errorCount ≤ m.sendCount)) ∧
    ((f.run hooks).monitors.map Monitor.errorCount).sum ≤
      (f.accepted hooks).countP fun hook => hook.startsOn?.isSome := by
  have hbalanced := hf.balanced_run hooks
  constructor
  · intro monitor m hm
    obtain ⟨hcounts, -⟩ := hbalanced.hasCounts monitor m hm
    have hle : m.errorCount ≤
        m.sendCount + strays monitor (f.run hooks).tickets.length (f.accepted hooks) := by
      have herrors := hcounts.errors_eq
      have htotal := hcounts.total_eq
      have hverdicts := verdicts_false_le monitor (f.run hooks).tickets.length (f.accepted hooks)
      have hissued := countP_issuer?_eq_startsOn monitor (f.accepted hooks)
      rw [← hbalanced.tickets_eq] at hissued
      unfold Monitor.errorCount Monitor.sendCount
      omega
    refine ⟨hle, fun hhome => ?_⟩
    rwa [strays_eq_zero hhome, Nat.add_zero] at hle
  · rw [← hbalanced.tickets_eq]
    exact hbalanced.sum_errorCount_le

/-- A send of the first monitor that fails at the second. -/
def straying : List (Hook Float) :=
  [.start 0 1, .complete 1 0 false none 2]

theorem errorCount_le_sendCount_add_strays_straying :
    pair.IsNew ∧
      (∀ m, (pair.run straying).monitors[1]? = some m → m.errorCount ≤ m.sendCount + 1) ∧
      (∀ m, (pair.run straying).monitors[0]? = some m → m.errorCount ≤ m.sendCount) ∧
      ((pair.run straying).monitors.map Monitor.errorCount).sum ≤ 1 := by
  obtain ⟨hle, hsum⟩ := errorCount_le_sendCount_add_strays isNew_pair straying
  refine ⟨isNew_pair, fun m hm => ?_, fun m hm => ?_, hsum.trans (by decide +kernel)⟩
  · have hstrays : strays 1 (pair.run straying).tickets.length (pair.accepted straying) = 1 := by
      decide +kernel
    have hstray := (hle 1 m hm).1
    rwa [hstrays] at hstray
  · exact (hle 0 m hm).2 (by decide +kernel)

/-- Failures do exceed sends: the second monitor counts no send and one failure. -/
theorem errorCount_not_le_sendCount :
    ¬ ∀ (f : Fleet Float) (hooks : List (Hook Float)), f.IsNew →
      ∀ (monitor : Nat) (m : Monitor Float), (f.run hooks).monitors[monitor]? = some m →
        0 ≤ m.errorCount ∧ m.errorCount ≤ m.sendCount := by
  intro h
  have hall : ∀ m ∈ (pair.run straying).monitors[1]?, ¬ m.errorCount ≤ m.sendCount := by
    decide +kernel
  have hsome : ((pair.run straying).monitors[1]?).isSome := by decide +kernel
  obtain ⟨m, hm⟩ := Option.isSome_iff_exists.mp hsome
  exact hall m hm (h pair straying isNew_pair 1 m hm).2

end Fleet

end SendMeter
