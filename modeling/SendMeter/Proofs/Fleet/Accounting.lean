import Mathlib
import SendMeter.Proofs.Fleet.Verdicts

namespace SendMeter

private theorem sum_map_set {β : Type} (value : β → Nat) {xs : List β} {i : Nat} {old : β}
    (h : xs[i]? = some old) (new : β) :
    ((xs.set i new).map value).sum + value old = (xs.map value).sum + value new := by
  induction xs generalizing i with
  | nil => cases h
  | cons x xs ih =>
    cases i with
    | zero =>
      cases h
      simp only [List.set_cons_zero, List.map_cons, List.sum_cons]
      omega
    | succ i =>
      have htail := ih h
      simp only [List.set_cons_succ, List.map_cons, List.sum_cons]
      omega

theorem getElem?_set_cases {β : Type} {xs : List β} {i j : Nat} {old new x : β}
    (hold : xs[i]? = some old) (hx : (xs.set i new)[j]? = some x) :
    (i = j ∧ x = new) ∨ (i ≠ j ∧ xs[j]? = some x) := by
  by_cases heq : i = j
  · subst j
    rw [List.getElem?_set_self (List.getElem?_eq_some_iff.mp hold).1] at hx
    exact .inl ⟨rfl, (Option.some.inj hx).symm⟩
  · rw [List.getElem?_set_ne heq] at hx
    exact .inr ⟨heq, hx⟩

/-- Taking an open ticket leaves one open ticket fewer. -/
theorem countP_set_open {α : Type} {tickets : List (Ticket α)} {ticket : Nat} {t : Ticket α}
    (hlt : ticket < tickets.length) (ht : tickets[ticket]? = some t) (hopen : t.completed = false) :
    (tickets.set ticket { t with completed := true }).countP (fun t => !t.completed) + 1 =
      tickets.countP fun t => !t.completed := by
  have heq : tickets[ticket] = t := by
    rw [List.getElem?_eq_getElem hlt] at ht
    exact Option.some.inj ht
  have hpos : 0 < tickets.countP fun t => !t.completed := by
    rw [List.countP_pos_iff]
    exact ⟨t, List.mem_of_getElem? ht, by simp [hopen]⟩
  rw [List.countP_set hlt, heq]
  simp only [hopen, Bool.not_false, Bool.not_true, if_true, Bool.false_eq_true, if_false]
  omega

namespace Fleet

variable {α : Type}

/-- The outcomes that all monitors recorded. -/
def outcomes (f : Fleet α) : Nat :=
  (f.monitors.map fun m => m.outcomes.average.count).sum

/-- The tickets that were not completed. -/
def openTickets (f : Fleet α) : Nat :=
  f.tickets.countP fun t => !t.completed

theorem outcomes_set {f : Fleet α} {monitor : Nat} {m : Monitor α}
    (hm : f.monitors[monitor]? = some m) (after : Monitor α) (tickets : List (Ticket α)) :
    outcomes ⟨f.monitors.set monitor after, tickets⟩ + m.outcomes.average.count =
      f.outcomes + after.outcomes.average.count :=
  sum_map_set (fun m => m.outcomes.average.count) hm after

variable [Scalar α]

/-- Monitors that were just created, with any settings and at any clock readings, and no tickets. -/
def IsNew (f : Fleet α) : Prop :=
  f.tickets = [] ∧
    ∀ m ∈ f.monitors, ∃ name settings now, Monitor.create name settings now = .ok m

/-- The accounts of a fleet after some hooks: every ticket comes from a start, is completed exactly
if it has a verdict, and has none before it is given out; every monitor has counted the starts on it
and the verdicts at it; and every ticket is recorded or open. -/
structure Balanced (hooks : List (Hook α)) (f : Fleet α) : Prop where
  tickets_eq : f.tickets.length = hooks.countP fun h => h.startsOn?.isSome
  completed_eq : ∀ (ticket : Nat) (t : Ticket α), f.tickets[ticket]? = some t →
    t.completed = (verdict? ticket hooks).isSome
  verdict_eq_none : ∀ ticket, f.tickets.length ≤ ticket → verdict? ticket hooks = none
  hasCounts : ∀ (monitor : Nat) (m : Monitor α), f.monitors[monitor]? = some m →
    m.HasCounts (startsOn monitor hooks) (verdicts monitor true f.tickets.length hooks)
      (verdicts monitor false f.tickets.length hooks) ∧ m.Dated
  outcomes_add_open : f.outcomes + f.openTickets = f.tickets.length

theorem IsNew.balanced {f : Fleet α} (h : f.IsNew) : Balanced [] f := by
  obtain ⟨htickets, hmonitors⟩ := h
  have hcounts : ∀ m ∈ f.monitors, m.HasCounts 0 0 0 ∧ m.Dated := by
    intro m hm
    obtain ⟨name, settings, now, hcreate⟩ := hmonitors m hm
    exact Monitor.hasCounts_of_create hcreate
  refine ⟨?_, ?_, fun _ _ => rfl, ?_, ?_⟩
  · rw [htickets]
    rfl
  · intro ticket t ht
    rw [htickets] at ht
    cases ht
  · intro monitor m hm
    rw [htickets]
    exact hcounts m (List.mem_of_getElem? hm)
  · have houtcomes : f.outcomes = 0 := by
      unfold outcomes
      rw [List.sum_eq_zero_iff_forall_eq_nat]
      intro count hcount
      obtain ⟨m, hm, rfl⟩ := List.mem_map.mp hcount
      exact (hcounts m hm).1.outcomes_eq
    rw [houtcomes, openTickets, htickets]
    rfl

section Step

variable {f g : Fleet α} {hooks : List (Hook α)} {monitor : Nat} {now : α}

theorem Balanced.start (h : Balanced hooks f) (hg : f.apply (.start monitor now) = .ok g) :
    Balanced (hooks ++ [.start monitor now]) g := by
  obtain ⟨m, started, t, hm, hstart, rfl⟩ := apply_start_eq_ok hg
  obtain ⟨hcounts, hdated⟩ := h.hasCounts monitor m hm
  have hstarted := hcounts.start hdated hstart
  obtain ⟨sends, -, hmonitor, hticket⟩ := Monitor.start_eq_ok hstart
  have hverdict (ticket : Nat) := verdict?_concat_start ticket hooks monitor now
  have hnone := h.verdict_eq_none f.tickets.length (Nat.le_refl _)
  have hverdicts (i : Nat) (success : Bool) :
      verdicts i success (f.tickets.length + 1) (hooks ++ [.start monitor now]) =
        verdicts i success f.tickets.length hooks := by
    rw [verdicts_congr hverdict, verdicts_succ hnone]
  refine ⟨?_, ?_, ?_, ?_, ?_⟩
  · rw [List.length_append, List.countP_append, h.tickets_eq]
    rfl
  · intro ticket t' ht'
    rw [hverdict]
    by_cases hlt : ticket < f.tickets.length
    · rw [List.getElem?_append_left hlt] at ht'
      exact h.completed_eq ticket t' ht'
    · rw [h.verdict_eq_none ticket (by omega)]
      rw [List.getElem?_append_right (by omega), List.getElem?_singleton] at ht'
      split at ht'
      · cases ht'
        rw [hticket]
        rfl
      · cases ht'
  · intro ticket hle
    rw [List.length_append, List.length_singleton] at hle
    rw [hverdict]
    exact h.verdict_eq_none ticket (by omega)
  · intro i mi hmi
    rw [List.length_append, List.length_singleton, hverdicts, hverdicts, startsOn_concat]
    obtain ⟨rfl, rfl⟩ | ⟨hne, hmi⟩ := getElem?_set_cases hm hmi
    · simpa [Hook.startsOn?] using hstarted
    · have hi := h.hasCounts i mi hmi
      simpa [Hook.startsOn?, hne] using hi
  · have hsum := outcomes_set hm started (f.tickets ++ [t])
    have hsame : started.outcomes.average.count = m.outcomes.average.count := by rw [hmonitor]
    have hopen : openTickets ⟨f.monitors.set monitor started, f.tickets ++ [t]⟩ =
        f.openTickets + 1 := by
      unfold openTickets
      rw [List.countP_append, List.countP_singleton, hticket]
      rfl
    have hbalance := h.outcomes_add_open
    rw [List.length_append, List.length_singleton, hopen]
    omega

/-- Completing an open ticket gives it its verdict, which the monitor counts. -/
theorem Balanced.complete_open (h : Balanced hooks f) {ticket : Nat} {success : Bool}
    {duration : Option α} {m recorded : Monitor α} {t : Ticket α}
    (hm : f.monitors[monitor]? = some m) (ht : f.tickets[ticket]? = some t)
    (hopen : t.completed = false)
    (hrecord : m.recordOutcome success (t.duration duration now) now = .ok recorded) :
    Balanced (hooks ++ [.complete monitor ticket success duration now])
      ⟨f.monitors.set monitor recorded, f.tickets.set ticket { t with completed := true }⟩ := by
  obtain ⟨hcounts, hdated⟩ := h.hasCounts monitor m hm
  have hrecorded := hcounts.recordOutcome hdated hrecord
  have hlt : ticket < f.tickets.length := (List.getElem?_eq_some_iff.mp ht).1
  have hnone : verdict? ticket hooks = none := by
    have hcompleted := h.completed_eq ticket t ht
    rw [hopen] at hcompleted
    simpa using hcompleted.symm
  have hverdicts (i : Nat) (s : Bool) :=
    verdicts_concat_of_none hlt hnone i monitor s success duration now
  have hstarts (i : Nat) :
      startsOn i (hooks ++ [.complete monitor ticket success duration now]) = startsOn i hooks := by
    rw [startsOn_concat]
    rfl
  refine ⟨?_, ?_, ?_, ?_, ?_⟩
  · rw [List.length_set, List.countP_append, h.tickets_eq]
    rfl
  · intro other t' ht'
    obtain ⟨rfl, rfl⟩ | ⟨hne, ht'⟩ := getElem?_set_cases ht ht'
    · rw [verdict?_concat_of_none hnone]
      rfl
    · rw [verdict?_concat_of_ne hne]
      exact h.completed_eq other t' ht'
  · intro other hle
    rw [List.length_set] at hle
    rw [verdict?_concat_of_ne (by omega)]
    exact h.verdict_eq_none other hle
  · intro i mi hmi
    rw [List.length_set, hverdicts, hverdicts, hstarts]
    obtain ⟨rfl, rfl⟩ | ⟨hne, hmi⟩ := getElem?_set_cases hm hmi
    · cases success <;> simpa using hrecorded
    · have hi := h.hasCounts i mi hmi
      simpa [hne] using hi
  · have hsum := outcomes_set hm recorded (f.tickets.set ticket { t with completed := true })
    have hmore : recorded.outcomes.average.count = m.outcomes.average.count + 1 := by
      rw [hrecorded.1.outcomes_eq, hcounts.outcomes_eq]
      cases success <;> simp <;> omega
    have hclosed : openTickets ⟨f.monitors.set monitor recorded,
        f.tickets.set ticket { t with completed := true }⟩ + 1 = f.openTickets :=
      countP_set_open hlt ht hopen
    have hbalance := h.outcomes_add_open
    rw [List.length_set]
    omega

omit [Scalar α] in
/-- Completing a ticket that has its verdict changes no account. -/
theorem Balanced.complete_completed (h : Balanced hooks f) {ticket : Nat} {t : Ticket α}
    (ht : f.tickets[ticket]? = some t) (hcompleted : t.completed = true) (success : Bool)
    (duration : Option α) :
    Balanced (hooks ++ [.complete monitor ticket success duration now]) f := by
  have hsome : (verdict? ticket hooks).isSome := by
    rw [← h.completed_eq ticket t ht, hcompleted]
  have hverdict (other : Nat) :
      verdict? other (hooks ++ [.complete monitor ticket success duration now]) =
        verdict? other hooks := by
    by_cases heq : ticket = other
    · subst other
      exact verdict?_concat_of_isSome hsome _
    · exact verdict?_concat_of_ne heq hooks monitor success duration now
  refine ⟨?_, ?_, ?_, ?_, h.outcomes_add_open⟩
  · rw [List.countP_append, h.tickets_eq]
    rfl
  · intro other t' ht'
    rw [hverdict]
    exact h.completed_eq other t' ht'
  · intro other hle
    rw [hverdict]
    exact h.verdict_eq_none other hle
  · intro i mi hmi
    rw [verdicts_congr hverdict, verdicts_congr hverdict, startsOn_concat]
    exact h.hasCounts i mi hmi

theorem Balanced.apply (h : Balanced hooks f) {hook : Hook α} (hg : f.apply hook = .ok g) :
    Balanced (hooks ++ [hook]) g := by
  cases hook with
  | start monitor now => exact h.start hg
  | complete monitor ticket success duration now =>
    obtain ⟨m, t, hm, ht, ⟨hcompleted, rfl⟩ | ⟨hopen, recorded, hrecord, rfl⟩⟩ :=
      apply_complete_cases hg
    · exact h.complete_completed ht hcompleted success duration
    · exact h.complete_open hm ht hopen hrecord

end Step

theorem Balanced.run {f : Fleet α} {before : List (Hook α)} (h : Balanced before f)
    (hooks : List (Hook α)) : Balanced (before ++ f.accepted hooks) (f.run hooks) := by
  induction hooks generalizing f before with
  | nil => simpa [accepted] using h
  | cons hook hooks ih =>
    rw [run_cons, accepted]
    cases hg : f.apply hook with
    | error e =>
      rw [after_of_error hg]
      exact ih h
    | ok g =>
      rw [after_of_ok hg]
      simpa [Except.isOk, Except.toBool] using ih (h.apply hg)

theorem IsNew.balanced_run {f : Fleet α} (h : f.IsNew) (hooks : List (Hook α)) :
    Balanced (f.accepted hooks) (f.run hooks) :=
  h.balanced.run hooks

end Fleet

end SendMeter
