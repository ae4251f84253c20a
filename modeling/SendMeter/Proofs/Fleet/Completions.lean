import SendMeter.Proofs.Fleet.Ineffective

namespace SendMeter

/-- A completion as a monitor records it. -/
structure Completion (α : Type) where
  success : Bool
  duration : α
  now : α
deriving DecidableEq, Repr

/-- The duration that a completion adds to the durations of its monitor. -/
def Completion.added? {α : Type} (c : Completion α) : Option α :=
  if c.success then some c.duration else none

variable {α : Type} [Scalar α]

/-- What a call records at a monitor: the completion there of a ticket that was open. -/
def Call.completion? (monitor : Nat) (c : Call α) : Option (Completion α) :=
  match c.hook with
  | .start _ _ => none
  | .complete settler ticket success duration now =>
    match c.fleet.tickets[ticket]? with
    | none => none
    | some t =>
      if settler = monitor ∧ t.completed = false ∧ c.answer.isOk then
        some ⟨success, t.duration duration now, now⟩
      else none

namespace Fleet

/-- The calls of a run, each with the fleet that it met. -/
def calls (f : Fleet α) : List (Hook α) → List (Call α)
  | [] => []
  | h :: hooks => ⟨f, h⟩ :: (f.after h).calls hooks

theorem calls_concat (f : Fleet α) (hooks : List (Hook α)) (h : Hook α) :
    f.calls (hooks ++ [h]) = f.calls hooks ++ [⟨f.run hooks, h⟩] := by
  induction hooks generalizing f with
  | nil => rfl
  | cons first hooks ih => rw [List.cons_append, calls, calls, ih, run_cons, List.cons_append]

/-- What a run records at a monitor, in order. -/
def completionsAt (f : Fleet α) (monitor : Nat) (hooks : List (Hook α)) : List (Completion α) :=
  (f.calls hooks).filterMap (Call.completion? monitor)

theorem completionsAt_concat (f : Fleet α) (monitor : Nat) (hooks : List (Hook α)) (h : Hook α) :
    f.completionsAt monitor (hooks ++ [h]) =
      f.completionsAt monitor hooks ++ (Call.completion? monitor ⟨f.run hooks, h⟩).toList := by
  rw [completionsAt, calls_concat, List.filterMap_append]
  cases hcompletion : Call.completion? monitor ⟨f.run hooks, h⟩ <;>
    simp [completionsAt, hcompletion]

variable {f : Fleet α} {monitor : Nat} {m after : Monitor α} {hooks : List (Hook α)}

private theorem completion?_of_error {h : Hook α} {e : HookError α} (he : f.apply h = .error e) :
    Call.completion? monitor ⟨f, h⟩ = none := by
  cases h with
  | start => rfl
  | complete settler ticket success duration now =>
    simp only [Call.completion?, Call.answer, he]
    split <;> simp [Except.isOk, Except.toBool]

theorem completion?_of_ok {g : Fleet α} {settler ticket : Nat} {success : Bool}
    {duration : Option α} {now : α} {t : Ticket α} (ht : f.tickets[ticket]? = some t)
    (hg : f.apply (.complete settler ticket success duration now) = .ok g) :
    Call.completion? monitor ⟨f, .complete settler ticket success duration now⟩ =
      if settler = monitor ∧ t.completed = false then
        some ⟨success, t.duration duration now, now⟩
      else none := by
  simp [Call.completion?, Call.answer, hg, ht, Except.isOk, Except.toBool]

/-- A hook leaves the outcomes and the durations of a monitor as they are, or it records one more
completion there. -/
theorem completion?_cases (hm : f.monitors[monitor]? = some m) {h : Hook α}
    (hafter : (f.after h).monitors[monitor]? = some after) :
    (Call.completion? monitor ⟨f, h⟩ = none ∧
      after.outcomes = m.outcomes ∧ after.durations = m.durations) ∨
      ∃ c, Call.completion? monitor ⟨f, h⟩ = some c ∧
        m.recordOutcome c.success c.duration c.now = .ok after := by
  cases hg : f.apply h with
  | error e =>
    rw [after_of_error hg, hm] at hafter
    cases hafter
    exact .inl ⟨completion?_of_error hg, rfl, rfl⟩
  | ok g =>
    rw [after_of_ok hg] at hafter
    cases h with
    | start started now =>
      obtain ⟨m', changed, t, hm', hstart, rfl⟩ := apply_start_eq_ok hg
      obtain ⟨sends, -, rfl, -⟩ := Monitor.start_eq_ok hstart
      refine .inl ⟨rfl, ?_⟩
      obtain ⟨rfl, rfl⟩ | ⟨-, hsame⟩ := getElem?_set_cases hm' hafter
      · rw [hm] at hm'
        cases hm'
        exact ⟨rfl, rfl⟩
      · rw [hm] at hsame
        cases hsame
        exact ⟨rfl, rfl⟩
    | complete settler ticket success duration now =>
      obtain ⟨m', t, hm', ht, hcases⟩ := apply_complete_cases hg
      rw [completion?_of_ok ht hg]
      obtain ⟨htaken, rfl⟩ | ⟨hopen, recorded, hrecord, rfl⟩ := hcases
      · rw [hm] at hafter
        cases hafter
        exact .inl ⟨if_neg (by simp [htaken]), rfl, rfl⟩
      · obtain ⟨rfl, rfl⟩ | ⟨hne, hsame⟩ := getElem?_set_cases hm' hafter
        · rw [hm] at hm'
          cases hm'
          exact .inr ⟨_, if_pos ⟨rfl, hopen⟩, hrecord⟩
        · rw [hm] at hsame
          cases hsame
          exact .inl ⟨if_neg fun h => hne h.1, rfl, rfl⟩

/-- What holds of a monitor before a run, speaks of nothing but its outcomes and its durations, and
is kept by each completion that is recorded there, holds after the run. -/
theorem completionsAt_induction {P : List (Completion α) → Monitor α → Prop} {m₀ : Monitor α}
    (hm₀ : f.monitors[monitor]? = some m₀) (hstart : P [] m₀)
    (hkept : ∀ {completions m after}, P completions m → after.outcomes = m.outcomes →
      after.durations = m.durations → P completions after)
    (hrecord : ∀ {completions m after c}, P completions m →
      m.recordOutcome c.success c.duration c.now = .ok after → P (completions ++ [c]) after)
    (hm : (f.run hooks).monitors[monitor]? = some m) : P (f.completionsAt monitor hooks) m := by
  induction hooks using List.reverseRecOn generalizing m with
  | nil =>
    rw [run_nil, hm₀] at hm
    cases hm
    exact hstart
  | append_singleton hooks h ih =>
    rw [run_append, run_cons, run_nil] at hm
    have hlt := (List.getElem?_eq_some_iff.mp hm).1
    rw [length_monitors_after] at hlt
    have hbefore := List.getElem?_eq_getElem hlt
    rw [completionsAt_concat]
    obtain ⟨hnone, houtcomes, hdurations⟩ | ⟨c, hsome, hc⟩ := completion?_cases hbefore hm
    · rw [hnone, Option.toList_none, List.append_nil]
      exact hkept (ih hbefore) houtcomes hdurations
    · rw [hsome, Option.toList_some]
      exact hrecord (ih hbefore) hc

end Fleet

end SendMeter
