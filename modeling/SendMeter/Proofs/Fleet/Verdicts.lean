import SendMeter.Fleet
import SendMeter.Proofs.Monitor.Steps

namespace SendMeter

variable {α : Type}

namespace Hook

/-- The monitor on which a hook starts a send. -/
def startsOn? : Hook α → Option Nat
  | .start monitor _ => some monitor
  | .complete _ _ _ _ _ => none

/-- The monitor at which a hook completes a ticket, and whether with success. -/
def settles? (ticket : Nat) : Hook α → Option (Nat × Bool)
  | .start _ _ => none
  | .complete monitor settled success _ _ =>
    if settled = ticket then some (monitor, success) else none

end Hook

/-- The number of sends that hooks start on a monitor. -/
def startsOn (monitor : Nat) (hooks : List (Hook α)) : Nat :=
  hooks.countP fun h => h.startsOn? = some monitor

/-- The first completion of a ticket: where it came, and whether with success. -/
def verdict? (ticket : Nat) (hooks : List (Hook α)) : Option (Nat × Bool) :=
  hooks.findSome? (Hook.settles? ticket)

/-- The number of tickets, out of the first so many, that were first completed at a monitor and with
a given success. -/
def verdicts (monitor : Nat) (success : Bool) (tickets : Nat) (hooks : List (Hook α)) : Nat :=
  (List.range tickets).countP fun ticket => verdict? ticket hooks = some (monitor, success)

theorem startsOn_concat (monitor : Nat) (hooks : List (Hook α)) (h : Hook α) :
    startsOn monitor (hooks ++ [h]) =
      startsOn monitor hooks + if h.startsOn? = some monitor then 1 else 0 := by
  simp [startsOn, List.countP_append, List.countP_singleton]

theorem verdict?_concat (ticket : Nat) (hooks : List (Hook α)) (h : Hook α) :
    verdict? ticket (hooks ++ [h]) = (verdict? ticket hooks).or (h.settles? ticket) := by
  simp [verdict?, List.findSome?_append]

theorem verdict?_concat_start (ticket : Nat) (hooks : List (Hook α)) (monitor : Nat) (now : α) :
    verdict? ticket (hooks ++ [.start monitor now]) = verdict? ticket hooks := by
  rw [verdict?_concat]
  simp [Hook.settles?]

theorem verdict?_concat_of_ne {ticket settled : Nat} (hne : settled ≠ ticket)
    (hooks : List (Hook α)) (monitor : Nat) (success : Bool) (duration : Option α) (now : α) :
    verdict? ticket (hooks ++ [.complete monitor settled success duration now]) =
      verdict? ticket hooks := by
  rw [verdict?_concat, Hook.settles?, if_neg hne, Option.or_none]

/-- A ticket that was settled before keeps its verdict. -/
theorem verdict?_concat_of_isSome {ticket : Nat} {hooks : List (Hook α)}
    (hsome : (verdict? ticket hooks).isSome) (h : Hook α) :
    verdict? ticket (hooks ++ [h]) = verdict? ticket hooks := by
  rw [verdict?_concat, Option.or_of_isSome hsome]

theorem verdict?_concat_of_none {ticket : Nat} {hooks : List (Hook α)}
    (hnone : verdict? ticket hooks = none) (monitor : Nat) (success : Bool) (duration : Option α)
    (now : α) :
    verdict? ticket (hooks ++ [.complete monitor ticket success duration now]) =
      some (monitor, success) := by
  rw [verdict?_concat, hnone, Hook.settles?, if_pos rfl, Option.none_or]

/-- One more number below a bound that has a property adds one to their count. -/
theorem countP_range_update {p q : Nat → Bool} {i : Nat} (hp : p i = false)
    (hpq : ∀ j, j ≠ i → q j = p j) (n : Nat) :
    (List.range n).countP q = (List.range n).countP p + if i < n ∧ q i = true then 1 else 0 := by
  induction n with
  | zero => rfl
  | succ n ih =>
    rw [List.range_succ, List.countP_append, List.countP_append, ih, List.countP_singleton,
      List.countP_singleton]
    by_cases hi : i = n
    · subst i
      simp [hp]
    · rw [hpq n (Ne.symm hi)]
      have hlt : i < n ↔ i < n + 1 := by omega
      simp only [hlt]
      omega

theorem verdicts_congr {monitor : Nat} {success : Bool} {tickets : Nat}
    {hooks more : List (Hook α)}
    (h : ∀ ticket, verdict? ticket more = verdict? ticket hooks) :
    verdicts monitor success tickets more = verdicts monitor success tickets hooks := by
  simp only [verdicts, h]

/-- A ticket that was just given out has no verdict. -/
theorem verdicts_succ {monitor : Nat} {success : Bool} {tickets : Nat} {hooks : List (Hook α)}
    (hnone : verdict? tickets hooks = none) :
    verdicts monitor success (tickets + 1) hooks = verdicts monitor success tickets hooks := by
  unfold verdicts
  rw [List.range_succ, List.countP_append]
  simp [hnone]

/-- The first completion of a ticket adds one to the verdicts of its kind, and to no others. -/
theorem verdicts_concat_of_none {ticket tickets : Nat} (hlt : ticket < tickets)
    {hooks : List (Hook α)} (hnone : verdict? ticket hooks = none) (monitor settler : Nat)
    (success settled : Bool) (duration : Option α) (now : α) :
    verdicts monitor success tickets (hooks ++ [.complete settler ticket settled duration now]) =
      verdicts monitor success tickets hooks +
        if settler = monitor ∧ settled = success then 1 else 0 := by
  unfold verdicts
  rw [countP_range_update (i := ticket)
    (p := fun t => decide (verdict? t hooks = some (monitor, success)))]
  · rw [verdict?_concat_of_none hnone]
    simp [hlt]
  · simp [hnone]
  · intro t hne
    rw [verdict?_concat_of_ne hne.symm]

theorem set_eq_self_of_getElem? {β : Type} {xs : List β} {i : Nat} {x : β} (h : xs[i]? = some x) :
    xs.set i x = xs := by
  obtain ⟨hi, rfl⟩ := List.getElem?_eq_some_iff.mp h
  exact List.set_getElem_self hi

namespace Fleet

variable [Scalar α]

/-- The hooks of a run that were not refused. -/
def accepted (f : Fleet α) : List (Hook α) → List (Hook α)
  | [] => []
  | h :: hooks =>
    if (f.apply h).isOk then h :: (f.after h).accepted hooks else (f.after h).accepted hooks

theorem accepted_concat (f : Fleet α) (hooks : List (Hook α)) (h : Hook α) :
    f.accepted (hooks ++ [h]) =
      f.accepted hooks ++ if ((f.run hooks).apply h).isOk then [h] else [] := by
  induction hooks generalizing f with
  | nil => rfl
  | cons first hooks ih =>
    rw [List.cons_append, accepted, accepted, ih, run_cons]
    split
    · rfl
    · rfl

/-- A start that is accepted was on a monitor of the fleet, and gives out the next ticket. -/
theorem apply_start_eq_ok {f g : Fleet α} {monitor : Nat} {now : α}
    (h : f.apply (.start monitor now) = .ok g) :
    ∃ m started t, f.monitors[monitor]? = some m ∧ m.start now = .ok (started, t) ∧
      g = ⟨f.monitors.set monitor started, f.tickets ++ [t]⟩ := by
  simp only [apply, start_eq] at h
  split at h
  · cases h
  next m hm =>
    split at h
    · cases h
    next started t hstart =>
      cases h
      exact ⟨m, started, t, hm, hstart, rfl⟩

/-- A completion that is accepted was of a ticket of the fleet at a monitor of the fleet. -/
theorem apply_complete_eq_ok {f g : Fleet α} {monitor ticket : Nat} {success : Bool}
    {duration : Option α} {now : α}
    (h : f.apply (.complete monitor ticket success duration now) = .ok g) :
    ∃ m t completed taken, f.monitors[monitor]? = some m ∧ f.tickets[ticket]? = some t ∧
      m.complete t success duration now = .ok (completed, taken) ∧
      g = ⟨f.monitors.set monitor completed, f.tickets.set ticket taken⟩ := by
  simp only [apply, complete_eq] at h
  split at h
  · cases h
  · cases h
  next m t hm ht =>
    split at h
    · cases h
    next completed taken hcomplete =>
      cases h
      exact ⟨m, t, completed, taken, hm, ht, hcomplete, rfl⟩

/-- A completion of a ticket that was taken before changes nothing, and the completion of an open
ticket takes it and records its outcome at one monitor. -/
theorem apply_complete_cases {f g : Fleet α} {monitor ticket : Nat} {success : Bool}
    {duration : Option α} {now : α}
    (h : f.apply (.complete monitor ticket success duration now) = .ok g) :
    ∃ m t, f.monitors[monitor]? = some m ∧ f.tickets[ticket]? = some t ∧
      ((t.completed = true ∧ g = f) ∨
        (t.completed = false ∧ ∃ recorded,
          m.recordOutcome success (t.duration duration now) now = .ok recorded ∧
          g = ⟨f.monitors.set monitor recorded,
            f.tickets.set ticket { t with completed := true }⟩)) := by
  obtain ⟨m, t, completed, taken, hm, ht, hcomplete, rfl⟩ := apply_complete_eq_ok h
  refine ⟨m, t, hm, ht, ?_⟩
  obtain ⟨-, ⟨hcompleted, rfl, rfl⟩ | ⟨hopen, hrecord, rfl⟩⟩ := Monitor.complete_eq_ok hcomplete
  · refine .inl ⟨hcompleted, ?_⟩
    rw [set_eq_self_of_getElem? hm, set_eq_self_of_getElem? ht]
  · exact .inr ⟨hopen, completed, hrecord, rfl⟩

end Fleet

end SendMeter
