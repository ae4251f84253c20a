import SendMeter.Proofs.Fleet.Acceptance

namespace SendMeter

variable {α : Type}

/-- The monitor that a hook is called on. -/
def Hook.monitor : Hook α → Nat
  | .start monitor _ => monitor
  | .complete monitor _ _ _ _ => monitor

theorem startsOn_eq_zero {monitor : Nat} {hooks : List (Hook α)}
    (h : ∀ hook ∈ hooks, hook.monitor ≠ monitor) : startsOn monitor hooks = 0 := by
  unfold startsOn
  rw [List.countP_eq_zero]
  intro hook hmem hstarts
  cases hook with
  | start started now =>
    simp only [Hook.startsOn?, Option.some.injEq, decide_eq_true_eq] at hstarts
    exact h _ hmem hstarts
  | complete => simp [Hook.startsOn?] at hstarts

/-- A verdict was given by a completion at its monitor. -/
theorem exists_mem_of_verdict? {ticket : Nat} {hooks : List (Hook α)} {monitor : Nat}
    {success : Bool} (h : verdict? ticket hooks = some (monitor, success)) :
    ∃ hook ∈ hooks, hook.monitor = monitor := by
  obtain ⟨hook, hmem, hsettles⟩ := List.exists_of_findSome?_eq_some h
  refine ⟨hook, hmem, ?_⟩
  cases hook with
  | start => simp [Hook.settles?] at hsettles
  | complete settler settled success' duration now =>
    simp only [Hook.settles?] at hsettles
    split at hsettles
    · cases hsettles
      rfl
    · cases hsettles

theorem verdicts_eq_zero {monitor : Nat} {hooks : List (Hook α)}
    (h : ∀ hook ∈ hooks, hook.monitor ≠ monitor) (success : Bool) (tickets : Nat) :
    verdicts monitor success tickets hooks = 0 := by
  unfold verdicts
  rw [List.countP_eq_zero]
  intro ticket _ hverdict
  obtain ⟨hook, hmem, hmonitor⟩ := exists_mem_of_verdict? (of_decide_eq_true hverdict)
  exact h hook hmem hmonitor

namespace Fleet

variable [Scalar α] {f g : Fleet α} {hook : Hook α} {hooks : List (Hook α)}

omit [Scalar α] in
@[simp] theorem monitors_add (f : Fleet α) (m : Monitor α) :
    (f.add m).monitors = f.monitors ++ [m] := rfl

theorem monitor_lt_of_apply (h : f.apply hook = .ok g) : hook.monitor < f.monitors.length := by
  cases hook with
  | start monitor now =>
    obtain ⟨m, started, t, hm, -, -⟩ := apply_start_eq_ok h
    exact (List.getElem?_eq_some_iff.mp hm).1
  | complete monitor ticket success duration now =>
    obtain ⟨m, t, hm, -, -⟩ := apply_complete_cases h
    exact (List.getElem?_eq_some_iff.mp hm).1

/-- A hook leaves the tickets alone that it does not complete. -/
theorem getElem?_tickets_of_apply (h : f.apply hook = .ok g) {ticket : Nat}
    (hlt : ticket < f.tickets.length) (hsettles : hook.settles? ticket = none) :
    g.tickets[ticket]? = f.tickets[ticket]? := by
  cases hook with
  | start monitor now =>
    obtain ⟨m, started, t, -, -, rfl⟩ := apply_start_eq_ok h
    exact List.getElem?_append_left hlt
  | complete monitor settled success duration now =>
    have hne : settled ≠ ticket := by
      rintro rfl
      simp [Hook.settles?] at hsettles
    obtain ⟨m, t, -, -, ⟨-, rfl⟩ | ⟨-, recorded, -, rfl⟩⟩ := apply_complete_cases h
    · rfl
    · exact List.getElem?_set_ne hne

/-- Completing a ticket that was taken before is accepted, and changes nothing. -/
theorem complete_of_completed {monitor ticket : Nat} {t : Ticket α}
    (hmonitor : monitor < f.monitors.length) (ht : f.tickets[ticket]? = some t)
    (hcompleted : t.completed = true) (success : Bool) (now : α) :
    f.complete monitor ticket success none now = .ok f := by
  have hm := List.getElem?_eq_getElem hmonitor
  simp only [complete_eq, hm, ht, Monitor.complete_completed _ success now hcompleted]
  rw [set_eq_self_of_getElem? hm, set_eq_self_of_getElem? ht]

/-- A ticket that was taken stays taken. -/
theorem completed_of_apply (h : f.apply hook = .ok g) {ticket : Nat} {t : Ticket α}
    (ht : f.tickets[ticket]? = some t) (hcompleted : t.completed = true) :
    ∃ t', g.tickets[ticket]? = some t' ∧ t'.completed = true := by
  have hlt := (List.getElem?_eq_some_iff.mp ht).1
  cases hook with
  | start monitor now =>
    rw [getElem?_tickets_of_apply h hlt rfl]
    exact ⟨t, ht, hcompleted⟩
  | complete monitor settled success duration now =>
    obtain ⟨m, t', -, ht', ⟨-, rfl⟩ | ⟨-, recorded, -, rfl⟩⟩ := apply_complete_cases h
    · exact ⟨t, ht, hcompleted⟩
    · by_cases heq : settled = ticket
      · subst settled
        exact ⟨_, List.getElem?_set_self hlt, rfl⟩
      · exact ⟨t, (List.getElem?_set_ne heq).trans ht, hcompleted⟩

theorem Balanced.add (h : Balanced hooks f)
    (hlt : ∀ hook ∈ hooks, hook.monitor < f.monitors.length) {name : String}
    {settings : Settings α} {now : α} {m : Monitor α}
    (hcreate : Monitor.create name settings now = .ok m) : Balanced hooks (f.add m) := by
  refine ⟨h.tickets_eq, h.completed_eq, h.verdict_eq_none, ?_, ?_⟩
  · intro monitor m' hm'
    by_cases hold : monitor < f.monitors.length
    · rw [monitors_add, List.getElem?_append_left hold] at hm'
      exact h.hasCounts monitor m' hm'
    · have hunheard : ∀ hook ∈ hooks, hook.monitor ≠ monitor := by
        intro hook hmem heq
        exact hold (heq ▸ hlt hook hmem)
      rw [monitors_add, List.getElem?_append_right (Nat.le_of_not_lt hold),
        List.getElem?_singleton] at hm'
      split at hm'
      · cases hm'
        rw [startsOn_eq_zero hunheard, verdicts_eq_zero hunheard, verdicts_eq_zero hunheard]
        exact Monitor.hasCounts_of_create hcreate
      · cases hm'
  · have hnone : m.outcomes.average.count = 0 :=
      (Monitor.hasCounts_of_create hcreate).1.outcomes_eq
    have hsame : (f.add m).outcomes = f.outcomes := by
      simp [outcomes, hnone]
    rw [hsame]
    exact h.outcomes_add_open

omit [Scalar α] in
/-- In a balanced fleet, what a monitor has counted is what it shows. -/
theorem Balanced.hasCounts_self (h : Balanced hooks f) {monitor : Nat} {m : Monitor α}
    (hm : f.monitors[monitor]? = some m) :
    m.HasCounts m.sendCount m.durations.average.count m.errorCount ∧ m.Dated := by
  obtain ⟨hcounts, hdated⟩ := h.hasCounts monitor m hm
  have hsends : m.sendCount = _ := hcounts.total_eq
  have herrors : m.errorCount = _ := hcounts.errors_eq
  rw [hsends, herrors, hcounts.durations_eq]
  exact ⟨hcounts, hdated⟩

theorem Ready.le {n k : Nat} (h : f.Ready n) (hle : n ≤ k) : f.Ready k := by
  induction hle with
  | refl => exact h
  | step _ ih => exact fun m hm => (ih m hm).mono

theorem Ready.add {n : Nat} (h : f.Ready n) {name : String} {settings : Settings α} {now : α}
    {m : Monitor α} (hcreate : Monitor.create name settings now = .ok m) : (f.add m).Ready n := by
  have hnew : (⟨[m], []⟩ : Fleet α).Ready n := by
    refine Ready.le (n := 0) ?_ (Nat.zero_le n)
    intro m' hm'
    rw [List.mem_singleton.mp hm']
    exact Monitor.ready_of_create hcreate
  intro m' hm'
  obtain hold | hadded := List.mem_append.mp hm'
  · exact h m' hold
  · exact hnew m' hadded

end Fleet

end SendMeter
