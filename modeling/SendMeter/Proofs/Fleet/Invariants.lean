import SendMeter.Proofs.Fleet.Verdicts

namespace SendMeter

variable {α : Type} [Scalar α]

/-- The reading of the clock that a hook comes with. -/
def Hook.now : Hook α → α
  | .start _ now => now
  | .complete _ _ _ _ now => now

/-- A property of monitors that starts and records keep, as long as the readings of the clock have a
property of their own. -/
structure Monitor.Invariant (readings : α → Prop) (property : Monitor α → Prop) : Prop where
  start : ∀ {m after : Monitor α} {t : Ticket α} {now : α}, readings now → property m →
    m.start now = .ok (after, t) → property after
  recordOutcome : ∀ {m after : Monitor α} {success : Bool} {duration now : α}, readings now →
    property m → m.recordOutcome success duration now = .ok after → property after

namespace Monitor.Invariant

variable {readings : α → Prop} {property : Monitor α → Prop} {f : Fleet α}

theorem after (h : Invariant readings property) {hook : Hook α} (hnow : readings hook.now)
    (hf : ∀ m ∈ f.monitors, property m) : ∀ m ∈ (f.after hook).monitors, property m := by
  cases hg : f.apply hook with
  | error e => rwa [Fleet.after_of_error hg]
  | ok g =>
    rw [Fleet.after_of_ok hg]
    -- One monitor of the list is replaced by one that has the property as well.
    have hset {monitor : Nat} {m changed : Monitor α} {tickets : List (Ticket α)}
        (hchanged : property changed) (hm : g = ⟨f.monitors.set monitor changed, tickets⟩) :
        ∀ m ∈ g.monitors, property m := by
      intro m' hm'
      rw [hm] at hm'
      obtain hmem | rfl := List.mem_or_eq_of_mem_set hm'
      · exact hf m' hmem
      · exact hchanged
    cases hook with
    | start monitor now =>
      obtain ⟨m, started, t, hm, hstart, hg⟩ := Fleet.apply_start_eq_ok hg
      exact hset (m := m) (h.start hnow (hf m (List.mem_of_getElem? hm)) hstart) hg
    | complete monitor ticket success duration now =>
      obtain ⟨m, t, hm, -, ⟨-, rfl⟩ | ⟨-, recorded, hrecord, hg⟩⟩ := Fleet.apply_complete_cases hg
      · exact hf
      · exact hset (m := m) (h.recordOutcome hnow (hf m (List.mem_of_getElem? hm)) hrecord) hg

theorem run (h : Invariant readings property) {hooks : List (Hook α)}
    (hnow : ∀ hook ∈ hooks, readings hook.now) (hf : ∀ m ∈ f.monitors, property m) :
    ∀ m ∈ (f.run hooks).monitors, property m := by
  induction hooks generalizing f with
  | nil => exact hf
  | cons hook hooks ih =>
    rw [List.forall_mem_cons] at hnow
    rw [Fleet.run_cons]
    exact ih hnow.2 (h.after hnow.1 hf)

end Monitor.Invariant

end SendMeter
