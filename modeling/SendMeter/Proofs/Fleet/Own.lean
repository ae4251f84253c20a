import SendMeter.Proofs.Fleet.Additions
import SendMeter.Proofs.Fleet.Strays

namespace SendMeter

variable {α : Type}

/-- The number of a ticket among those of a monitor. -/
def ownTicket (monitor : Nat) (hooks : List (Hook α)) (ticket : Nat) : Nat :=
  ((hooks.filterMap Hook.startsOn?).take ticket).count monitor

/-- A hook as its monitor sees it, for which there is no other monitor. -/
def Hook.own? (monitor : Nat) (number : Nat → Nat) : Hook α → Option (Hook α)
  | .start started now => if started = monitor then some (.start 0 now) else none
  | .complete settler ticket success duration now =>
    if settler = monitor then some (.complete 0 (number ticket) success duration now) else none

/-- The hooks of a run that a monitor sees. -/
def ownHooks (monitor : Nat) (hooks : List (Hook α)) : List (Hook α) :=
  hooks.filterMap (Hook.own? monitor (ownTicket monitor hooks))

/-- The tickets of a monitor, and no others, are completed at it. -/
def KeptApart (monitor : Nat) (hooks : List (Hook α)) : Prop :=
  ∀ settler ticket success duration now,
    Hook.complete settler ticket success duration now ∈ hooks →
      (settler = monitor ↔ issuer? ticket hooks = some monitor)

section Concat

variable {monitor ticket : Nat} {hooks : List (Hook α)}

theorem filterMap_startsOn?_concat_complete (hooks : List (Hook α)) (monitor settled : Nat)
    (success : Bool) (duration : Option α) (now : α) :
    (hooks ++ [Hook.complete monitor settled success duration now]).filterMap Hook.startsOn? =
      hooks.filterMap Hook.startsOn? := by
  rw [List.filterMap_append]
  exact List.append_nil _

theorem filterMap_startsOn?_concat_start (hooks : List (Hook α)) (monitor : Nat) (now : α) :
    (hooks ++ [Hook.start monitor now]).filterMap Hook.startsOn? =
      hooks.filterMap Hook.startsOn? ++ [monitor] :=
  List.filterMap_append

/-- The tickets of a monitor keep their order. -/
theorem ownTicket_lt {other : Nat} (hissuer : issuer? ticket hooks = some monitor)
    (hlt : ticket < other) : ownTicket monitor hooks ticket < ownTicket monitor hooks other := by
  have hnext : ownTicket monitor hooks (ticket + 1) = ownTicket monitor hooks ticket + 1 := by
    unfold ownTicket
    obtain ⟨hlength, hget⟩ := List.getElem?_eq_some_iff.mp hissuer
    rw [List.take_succ_eq_append_getElem hlength, List.count_append, hget,
      List.count_singleton_self]
  have hle : ownTicket monitor hooks (ticket + 1) ≤ ownTicket monitor hooks other :=
    (List.take_prefix_take_left hlt).sublist.count_le monitor
  omega

private theorem ownTicket_ne {other : Nat} (hissuer : issuer? ticket hooks = some monitor)
    (hother : issuer? other hooks = some monitor) (hne : ticket ≠ other) :
    ownTicket monitor hooks ticket ≠ ownTicket monitor hooks other := by
  obtain hlt | hlt := Nat.lt_or_gt_of_ne hne
  · exact Nat.ne_of_lt (ownTicket_lt hissuer hlt)
  · exact Nat.ne_of_gt (ownTicket_lt hother hlt)

/-- Later hooks do not change the numbers of tickets that were given out. -/
theorem ownTicket_concat (hle : ticket ≤ (hooks.filterMap Hook.startsOn?).length)
    (monitor : Nat) (h : Hook α) :
    ownTicket monitor (hooks ++ [h]) ticket = ownTicket monitor hooks ticket := by
  unfold ownTicket
  rw [List.filterMap_append, List.take_append_of_le_length hle]

/-- A hook that is called later, as the monitor sees it then. -/
theorem ownHooks_concat
    (hknown : ∀ settler ticket success duration now,
      Hook.complete settler ticket success duration now ∈ hooks →
        ticket < (hooks.filterMap Hook.startsOn?).length)
    (monitor : Nat) (h : Hook α) :
    ownHooks monitor (hooks ++ [h]) = ownHooks monitor hooks ++
      (h.own? monitor (ownTicket monitor (hooks ++ [h]))).toList := by
  have hbefore : hooks.filterMap (Hook.own? monitor (ownTicket monitor (hooks ++ [h]))) =
      ownHooks monitor hooks := by
    refine List.filterMap_congr fun called hcalled => ?_
    cases called with
    | start => rfl
    | complete settler ticket success duration now =>
      have hlt := hknown settler ticket success duration now hcalled
      rw [Hook.own?, Hook.own?, ownTicket_concat (Nat.le_of_lt hlt)]
  rw [ownHooks, List.filterMap_append, hbefore]
  rfl

/-- If every ticket is completed where it came from, every monitor is kept apart. -/
theorem keptApart_of_issuer? (h : ∀ settler ticket success duration now,
    Hook.complete settler ticket success duration now ∈ hooks →
      issuer? ticket hooks = some settler) (monitor : Nat) : KeptApart monitor hooks := by
  intro settler ticket success duration now hcalled
  rw [h settler ticket success duration now hcalled, Option.some.injEq]

theorem KeptApart.of_append {more : List (Hook α)}
    (hknown : ∀ settler ticket success duration now,
      Hook.complete settler ticket success duration now ∈ hooks →
        ticket < (hooks.filterMap Hook.startsOn?).length)
    (h : KeptApart monitor (hooks ++ more)) : KeptApart monitor hooks := by
  intro settler ticket success duration now hcalled
  have hlt := hknown settler ticket success duration now hcalled
  have hiff := h settler ticket success duration now (List.mem_append_left _ hcalled)
  rwa [issuer?, List.filterMap_append, List.getElem?_append_left hlt] at hiff

private theorem issuer?_ne (hunheard : ∀ hook ∈ hooks, hook.monitor ≠ monitor) (ticket : Nat) :
    issuer? ticket hooks ≠ some monitor := by
  intro hissuer
  obtain ⟨hook, hmem, hstarts⟩ := List.mem_filterMap.mp (List.mem_of_getElem? hissuer)
  cases hook with
  | start started now => exact hunheard _ hmem (Option.some.inj hstarts)
  | complete => cases hstarts

private theorem ownHooks_eq_nil (hunheard : ∀ hook ∈ hooks, hook.monitor ≠ monitor) :
    ownHooks monitor hooks = [] := by
  rw [ownHooks, List.filterMap_eq_nil_iff]
  intro hook hmem
  have hne := hunheard hook hmem
  cases hook with
  | start started now => exact if_neg hne
  | complete settler ticket success duration now => exact if_neg hne

end Concat

namespace Fleet

variable [Scalar α] {f g : Fleet α} {hooks : List (Hook α)} {monitor : Nat}

/-- Hooks that are refused may as well not be called. -/
theorem run_accepted (f : Fleet α) (hooks : List (Hook α)) :
    f.run (f.accepted hooks) = f.run hooks := by
  induction hooks generalizing f with
  | nil => rfl
  | cons hook hooks ih =>
    rw [accepted, run_cons]
    cases hg : f.apply hook with
    | error e =>
      rw [if_neg (by simp [Except.isOk, Except.toBool]), after_of_error hg, ih]
    | ok g =>
      rw [if_pos (by simp [Except.isOk, Except.toBool]), run_cons, ih]

omit [Scalar α] in
theorem Balanced.length_starts (h : Balanced hooks f) :
    (hooks.filterMap Hook.startsOn?).length = f.tickets.length := by
  rw [h.tickets_eq, List.length_filterMap_eq_countP]

omit [Scalar α] in
/-- A ticket that was completed was given out before. -/
theorem Balanced.ticket_lt (h : Balanced hooks f) (settler ticket : Nat) (success : Bool)
    (duration : Option α) (now : α)
    (hcalled : Hook.complete settler ticket success duration now ∈ hooks) :
    ticket < (hooks.filterMap Hook.startsOn?).length := by
  rw [h.length_starts]
  by_contra hle
  have hnone := h.verdict_eq_none ticket (Nat.le_of_not_lt hle)
  rw [verdict?, List.findSome?_eq_none_iff] at hnone
  have hsettles := hnone _ hcalled
  simp [Hook.settles?] at hsettles

theorem accepted_sublist (f : Fleet α) (hooks : List (Hook α)) :
    (f.accepted hooks).Sublist hooks := by
  induction hooks generalizing f with
  | nil => exact .slnil
  | cons hook hooks ih =>
    rw [accepted]
    split
    · exact (ih _).cons_cons hook
    · exact (ih _).cons hook

/-- A fleet of one monitor that stands where a monitor of another fleet stands after some hooks,
with the tickets that this monitor gave out. -/
structure Mirrors (monitor : Nat) (hooks : List (Hook α)) (f solo : Fleet α) : Prop where
  exists_monitor : ∃ m, f.monitors[monitor]? = some m ∧ solo.monitors = [m]
  length_tickets : solo.tickets.length = startsOn monitor hooks
  ticket_eq : ∀ ticket, issuer? ticket hooks = some monitor →
    solo.tickets[ownTicket monitor hooks ticket]? = f.tickets[ticket]?

namespace Mirrors

variable {solo : Fleet α} {now : α}

/-- A start on the monitor itself. -/
theorem start_self (h : Mirrors monitor hooks f solo) (hbalanced : Balanced hooks f)
    (hg : f.apply (.start monitor now) = .ok g) :
    ∃ next, solo.apply (.start 0 now) = .ok next ∧
      Mirrors monitor (hooks ++ [.start monitor now]) g next := by
  obtain ⟨m, started, t, hm, hstart, rfl⟩ := apply_start_eq_ok hg
  obtain ⟨m', hm', hsolo⟩ := h.exists_monitor
  rw [hm] at hm'
  cases hm'
  have hlength := hbalanced.length_starts
  have hlt := (List.getElem?_eq_some_iff.mp hm).1
  refine ⟨⟨[started], solo.tickets ++ [t]⟩, ?_, ⟨started, ?_, rfl⟩, ?_, ?_⟩
  · simp [apply, start_eq, hsolo, hstart]
  · exact List.getElem?_set_self hlt
  · rw [List.length_append, List.length_singleton, h.length_tickets, startsOn_concat]
    simp [Hook.startsOn?]
  · intro ticket hissuer
    rw [issuer?, filterMap_startsOn?_concat_start] at hissuer
    by_cases hold : ticket < f.tickets.length
    · rw [List.getElem?_append_left (by omega)] at hissuer
      have hticket := h.ticket_eq ticket hissuer
      rw [List.getElem?_eq_getElem hold] at hticket
      rw [ownTicket_concat (by omega), List.getElem?_append_left hold,
        List.getElem?_append_left (List.getElem?_eq_some_iff.mp hticket).1, hticket,
        List.getElem?_eq_getElem hold]
    · have hle := (List.getElem?_eq_some_iff.mp hissuer).1
      rw [List.length_append, List.length_singleton] at hle
      have heq : ticket = f.tickets.length := by omega
      have hnumber : ownTicket monitor hooks ticket = solo.tickets.length := by
        rw [ownTicket, List.take_of_length_le (by omega), count_filterMap_startsOn?,
          h.length_tickets]
      rw [ownTicket_concat (by omega), hnumber, heq, List.getElem?_concat_length,
        List.getElem?_concat_length]

/-- A start on another monitor. -/
theorem start_other (h : Mirrors monitor hooks f solo) (hbalanced : Balanced hooks f)
    {started : Nat} (hne : started ≠ monitor) (hg : f.apply (.start started now) = .ok g) :
    Mirrors monitor (hooks ++ [.start started now]) g solo := by
  obtain ⟨m, after, t, -, -, rfl⟩ := apply_start_eq_ok hg
  obtain ⟨m', hm', hsolo⟩ := h.exists_monitor
  have hlength := hbalanced.length_starts
  refine ⟨⟨m', ?_, hsolo⟩, ?_, ?_⟩
  · rw [List.getElem?_set_ne hne]
    exact hm'
  · rw [startsOn_concat, h.length_tickets]
    simp [Hook.startsOn?, hne]
  · intro ticket hissuer
    rw [issuer?, filterMap_startsOn?_concat_start] at hissuer
    have hold : ticket < f.tickets.length := by
      by_contra hle
      rw [List.getElem?_append_right (by omega), List.getElem?_singleton] at hissuer
      split at hissuer
      · exact hne (Option.some.inj hissuer)
      · cases hissuer
    rw [List.getElem?_append_left (by omega)] at hissuer
    rw [ownTicket_concat (by omega), h.ticket_eq ticket hissuer, List.getElem?_append_left hold]

section Complete

variable {settler ticket : Nat} {success : Bool} {duration : Option α}

/-- A completion at the monitor itself, of a ticket that it gave out. -/
theorem complete_self (h : Mirrors monitor hooks f solo) (hbalanced : Balanced hooks f)
    (hissuer : issuer? ticket hooks = some monitor)
    (hg : f.apply (.complete monitor ticket success duration now) = .ok g) :
    ∃ next,
      solo.apply (.complete 0 (ownTicket monitor hooks ticket) success duration now) = .ok next ∧
      Mirrors monitor (hooks ++ [.complete monitor ticket success duration now]) g next := by
  obtain ⟨m, t, completed, taken, hm, ht, hcomplete, rfl⟩ := apply_complete_eq_ok hg
  obtain ⟨m', hm', hsolo⟩ := h.exists_monitor
  rw [hm] at hm'
  cases hm'
  have hlength := hbalanced.length_starts
  have hlt := (List.getElem?_eq_some_iff.mp hm).1
  have hticket := h.ticket_eq ticket hissuer
  rw [ht] at hticket
  refine ⟨⟨[completed], solo.tickets.set (ownTicket monitor hooks ticket) taken⟩, ?_,
    ⟨completed, ?_, rfl⟩, ?_, ?_⟩
  · simp [apply, complete_eq, hsolo, hticket, hcomplete]
  · exact List.getElem?_set_self hlt
  · rw [List.length_set, h.length_tickets, startsOn_concat]
    rfl
  · intro other hother
    rw [issuer?, filterMap_startsOn?_concat_complete] at hother
    have hgiven := (List.getElem?_eq_some_iff.mp hother).1
    rw [ownTicket_concat (Nat.le_of_lt hgiven)]
    by_cases heq : ticket = other
    · subst other
      rw [List.getElem?_set_self (List.getElem?_eq_some_iff.mp hticket).1,
        List.getElem?_set_self (List.getElem?_eq_some_iff.mp ht).1]
    · rw [List.getElem?_set_ne (ownTicket_ne hissuer hother heq), List.getElem?_set_ne heq]
      exact h.ticket_eq other hother

/-- A completion at another monitor, of a ticket that came from another monitor. -/
theorem complete_other (h : Mirrors monitor hooks f solo) (hne : settler ≠ monitor)
    (hissuer : issuer? ticket hooks ≠ some monitor)
    (hg : f.apply (.complete settler ticket success duration now) = .ok g) :
    Mirrors monitor (hooks ++ [.complete settler ticket success duration now]) g solo := by
  obtain ⟨m, t, completed, taken, -, -, -, rfl⟩ := apply_complete_eq_ok hg
  obtain ⟨m', hm', hsolo⟩ := h.exists_monitor
  refine ⟨⟨m', ?_, hsolo⟩, ?_, ?_⟩
  · rw [List.getElem?_set_ne hne]
    exact hm'
  · rw [startsOn_concat, h.length_tickets]
    rfl
  · intro other hother
    rw [issuer?, filterMap_startsOn?_concat_complete] at hother
    have hgiven := (List.getElem?_eq_some_iff.mp hother).1
    have hdiffer : ticket ≠ other := by
      rintro rfl
      exact hissuer hother
    rw [ownTicket_concat (Nat.le_of_lt hgiven), List.getElem?_set_ne hdiffer]
    exact h.ticket_eq other hother

end Complete

omit [Scalar α] in
theorem add (h : Mirrors monitor hooks f solo) (m : Monitor α) :
    Mirrors monitor hooks (f.add m) solo := by
  obtain ⟨m', hm', hsolo⟩ := h.exists_monitor
  refine ⟨⟨m', ?_, hsolo⟩, h.length_tickets, h.ticket_eq⟩
  rw [monitors_add, List.getElem?_append_left (List.getElem?_eq_some_iff.mp hm').1]
  exact hm'

end Mirrors

/-- A monitor without others, and without tickets. -/
def alone (m : Monitor α) : Fleet α := ⟨[m], []⟩

/-- A monitor of a fleet stands where it would stand if it had been alone, with its first state and
the hooks that it saw. Alone, it refuses none of them. -/
structure Replays (monitor : Nat) (m₀ : Monitor α) (hooks : List (Hook α)) (f : Fleet α) :
    Prop where
  accepted_eq : (alone m₀).accepted (ownHooks monitor hooks) = ownHooks monitor hooks
  mirrors : Mirrors monitor hooks f ((alone m₀).run (ownHooks monitor hooks))

namespace Replays

variable {m₀ : Monitor α}

/-- A monitor that was just made. -/
theorem of_add (hlt : ∀ hook ∈ hooks, hook.monitor < f.monitors.length) :
    Replays f.nextMonitor m₀ hooks (f.add m₀) := by
  have hunheard : ∀ hook ∈ hooks, hook.monitor ≠ f.nextMonitor :=
    fun hook hmem => Nat.ne_of_lt (hlt hook hmem)
  have hnone := ownHooks_eq_nil hunheard
  refine ⟨by rw [hnone]; rfl, ⟨⟨m₀, ?_, ?_⟩, ?_, ?_⟩⟩
  · exact List.getElem?_concat_length
  · rw [hnone]
    rfl
  · rw [hnone, startsOn_eq_zero hunheard]
    rfl
  · exact fun ticket hissuer => absurd hissuer (issuer?_ne hunheard ticket)

theorem add (h : Replays monitor m₀ hooks f) (m : Monitor α) :
    Replays monitor m₀ hooks (f.add m) :=
  ⟨h.accepted_eq, h.mirrors.add m⟩

/-- A hook that the monitor sees, and that it accepts alone as well. -/
theorem of_own (h : Replays monitor m₀ hooks f) {hook own : Hook α} {next : Fleet α}
    (hown : ownHooks monitor (hooks ++ [hook]) = ownHooks monitor hooks ++ [own])
    (hnext : ((alone m₀).run (ownHooks monitor hooks)).apply own = .ok next)
    (hmirrors : Mirrors monitor (hooks ++ [hook]) g next) :
    Replays monitor m₀ (hooks ++ [hook]) g := by
  constructor
  · rw [hown, accepted_concat, h.accepted_eq, hnext]
    rfl
  · rw [hown, run_append, run_cons, after_of_ok hnext]
    exact hmirrors

/-- A hook that the monitor does not see. -/
theorem of_other (h : Replays monitor m₀ hooks f) {hook : Hook α}
    (hown : ownHooks monitor (hooks ++ [hook]) = ownHooks monitor hooks)
    (hmirrors : Mirrors monitor (hooks ++ [hook]) g ((alone m₀).run (ownHooks monitor hooks))) :
    Replays monitor m₀ (hooks ++ [hook]) g := by
  constructor
  · rw [hown]
    exact h.accepted_eq
  · rw [hown]
    exact hmirrors

theorem apply (h : Replays monitor m₀ hooks f) (hbalanced : Balanced hooks f) {hook : Hook α}
    (hg : f.apply hook = .ok g) (hapart : KeptApart monitor (hooks ++ [hook])) :
    Replays monitor m₀ (hooks ++ [hook]) g := by
  have hown := ownHooks_concat hbalanced.ticket_lt monitor hook
  cases hook with
  | start started now =>
    by_cases heq : started = monitor
    · subst started
      obtain ⟨next, hnext, hmirrors⟩ := h.mirrors.start_self hbalanced hg
      rw [Hook.own?, if_pos rfl] at hown
      exact h.of_own hown hnext hmirrors
    · rw [Hook.own?, if_neg heq] at hown
      exact h.of_other (hown.trans (List.append_nil _)) (h.mirrors.start_other hbalanced heq hg)
  | complete settler ticket success duration now =>
    have hiff := hapart settler ticket success duration now
      (List.mem_append_right _ List.mem_cons_self)
    rw [issuer?, filterMap_startsOn?_concat_complete] at hiff
    by_cases heq : settler = monitor
    · subst settler
      have hissuer := hiff.mp rfl
      have hgiven := (List.getElem?_eq_some_iff.mp hissuer).1
      obtain ⟨next, hnext, hmirrors⟩ := h.mirrors.complete_self hbalanced hissuer hg
      rw [Hook.own?, if_pos rfl, ownTicket_concat (Nat.le_of_lt hgiven)] at hown
      exact h.of_own hown hnext hmirrors
    · rw [Hook.own?, if_neg heq] at hown
      exact h.of_other (hown.trans (List.append_nil _))
        (h.mirrors.complete_other heq (fun hissuer => heq (hiff.mpr hissuer)) hg)

end Replays

end Fleet

end SendMeter
