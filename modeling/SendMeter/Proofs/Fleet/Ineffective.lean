import SendMeter.Proofs.Fleet.ExactlyOnce

namespace SendMeter

variable {α : Type} [Scalar α]

/-- A hook and the fleet that it is called on. -/
structure Call (α : Type) where
  fleet : Fleet α
  hook : Hook α

namespace Call

def answer (c : Call α) : Except (HookError α) (Fleet α) :=
  c.fleet.apply c.hook

/-- The fleet that the call leaves, with all that it did before it failed. -/
def left (c : Call α) : Fleet α :=
  (Fleet.applyM c.hook).left c.fleet

/-- A completion that is refused because its duration is negative. -/
def isRejected (c : Call α) : Bool :=
  match c.answer with
  | .error (.completion (.negativeDuration _)) => true
  | _ => false

/-- A completion that is accepted, but of a ticket that was taken before. -/
def isIgnored (c : Call α) : Bool :=
  match c.hook with
  | .start _ _ => false
  | .complete _ ticket _ _ _ =>
    c.answer.isOk && (c.fleet.tickets[ticket]?.map Ticket.completed).getD false

def isEffective (c : Call α) : Bool :=
  !c.isRejected && !c.isIgnored

variable {c : Call α}

/-- A rejected call has not touched the ticket, nor the monitor. -/
theorem left_of_isRejected (h : c.isRejected) : c.left = c.fleet := by
  unfold isRejected answer at h
  rw [Fleet.apply_eq, Work.final] at h
  unfold left Work.left
  cases hanswer : Fleet.applyM c.hook c.fleet with
  | ok given g => simp [hanswer] at h
  | error e g =>
    obtain rfl | ⟨error, rfl⟩ := Fleet.applyM_eq_error hanswer
    · rfl
    · simp [hanswer] at h

private theorem answer_of_isIgnored (h : c.isIgnored) : c.answer = .ok c.fleet := by
  obtain ⟨f, hook⟩ := c
  cases hook with
  | start monitor now => cases h
  | complete monitor ticket success duration now =>
    simp only [isIgnored, Bool.and_eq_true] at h
    obtain ⟨hok, htaken⟩ := h
    obtain ⟨g, hg⟩ := isOk_iff_exists.mp hok
    obtain ⟨m, t, -, ht, ⟨-, rfl⟩ | ⟨hopen, -⟩⟩ := Fleet.apply_complete_cases hg
    · exact hg
    · simp [ht, hopen] at htaken

private theorem left_of_isIgnored (h : c.isIgnored) : c.left = c.fleet :=
  Work.left_of_ok (Fleet.apply_eq_ok_iff.mp (answer_of_isIgnored h))

/-- A call without effect leaves the fleet as it was. -/
theorem left_of_not_isEffective (h : ¬ c.isEffective) : c.left = c.fleet := by
  have hcases : c.isRejected ∨ c.isIgnored := by
    simpa [isEffective, or_iff_not_imp_left] using h
  obtain hrejected | hignored := hcases
  · exact left_of_isRejected hrejected
  · exact left_of_isIgnored hignored

end Call

theorem Monitor.complete_of_negative (m : Monitor α) (t : Ticket α) (success : Bool)
    {duration : α} (hnegative : duration < Scalar.zero) (now : α) :
    m.complete t success (some duration) now = .error (.negativeDuration duration) := by
  simp [complete_eq, Option.filter_some_pos, hnegative]

namespace Fleet

variable {f : Fleet α}

/-- A completion with a negative duration is refused, whether or not its ticket is still open. -/
theorem apply_complete_of_negative {monitor ticket : Nat} {m : Monitor α} {t : Ticket α}
    (hm : f.monitors[monitor]? = some m) (ht : f.tickets[ticket]? = some t) (success : Bool)
    {duration : α} (hnegative : duration < Scalar.zero) (now : α) :
    f.apply (.complete monitor ticket success (some duration) now) =
      .error (.completion (.negativeDuration duration)) := by
  simp [apply, complete_eq, hm, ht, Monitor.complete_of_negative m t success hnegative now]

/-- A completion with a negative duration is rejected, and leaves all monitors and tickets as they
were. -/
theorem applyM_complete_of_negative {monitor ticket : Nat} {m : Monitor α} {t : Ticket α}
    (hm : f.monitors[monitor]? = some m) (ht : f.tickets[ticket]? = some t) (success : Bool)
    {duration : α} (hnegative : duration < Scalar.zero) (now : α) :
    applyM (.complete monitor ticket success (some duration) now) f =
      .error (.completion (.negativeDuration duration)) f := by
  have happly := apply_complete_of_negative hm ht success hnegative now
  rw [apply_eq] at happly
  obtain ⟨g, hg⟩ := Work.final_eq_error_iff.mp happly
  obtain rfl | ⟨error, herror⟩ := applyM_eq_error hg
  · exact hg
  · cases herror

/-- What is said about a ticket that was taken before is accepted, and changes nothing. -/
theorem applyM_complete_of_completed {monitor ticket : Nat} {m : Monitor α} {t : Ticket α}
    (hm : f.monitors[monitor]? = some m) (ht : f.tickets[ticket]? = some t) (success : Bool)
    {duration : Option α} (hadmits : Monitor.Admits duration) (hcompleted : t.completed = true)
    (now : α) : applyM (.complete monitor ticket success duration now) f = .ok () f := by
  have hfilter := Monitor.filter_negative_eq_none_iff.mpr hadmits
  refine apply_eq_ok_iff.mp ?_
  simp only [apply, complete_eq, hm, ht, Monitor.complete_eq, hfilter, hcompleted, if_true]
  exact congrArg Except.ok (putBoth_self hm ht)

/-- A completion of an open ticket, with a duration that is not negative, depends on nothing but
whether the monitor can record the outcome. -/
theorem apply_complete_of_open {monitor ticket : Nat} {m recorded : Monitor α} {t : Ticket α}
    {success : Bool} {duration : Option α} {now : α} (hm : f.monitors[monitor]? = some m)
    (ht : f.tickets[ticket]? = some t) (hopen : t.completed = false)
    (hadmits : Monitor.Admits duration)
    (hrecord : m.recordOutcome success (t.duration duration now) now = .ok recorded) :
    f.apply (.complete monitor ticket success duration now) =
      .ok ⟨f.monitors.set monitor recorded, f.tickets.set ticket { t with completed := true }⟩ := by
  have hfilter := Monitor.filter_negative_eq_none_iff.mpr hadmits
  simp [apply, complete_eq, hm, ht, Monitor.complete_eq, hfilter, hopen, hrecord]

theorem exists_apply_complete_of_open {limit n : Nat} (hα : Scalar.CountsBelow α limit)
    (hready : f.Ready n) (hn : n + 1 < limit) {monitor ticket : Nat} {m : Monitor α} {t : Ticket α}
    (hm : f.monitors[monitor]? = some m) (ht : f.tickets[ticket]? = some t)
    (hopen : t.completed = false) (success : Bool) {duration : Option α}
    (hadmits : Monitor.Admits duration) (now : α) :
    ∃ recorded, m.recordOutcome success (t.duration duration now) now = .ok recorded ∧
      f.apply (.complete monitor ticket success duration now) =
        .ok ⟨f.monitors.set monitor recorded,
          f.tickets.set ticket { t with completed := true }⟩ := by
  have hm_ready := hready m (List.mem_of_getElem? hm)
  obtain ⟨recorded, hrecord⟩ :=
    hm_ready.exists_recordOutcome hα hn success (t.duration duration now) now
  exact ⟨recorded, hrecord, apply_complete_of_open hm ht hopen hadmits hrecord⟩

/-- A completion has an effect exactly if its duration is not negative and its ticket is open. -/
theorem isEffective_complete_iff {monitor ticket : Nat} {m : Monitor α} {t : Ticket α}
    (hm : f.monitors[monitor]? = some m) (ht : f.tickets[ticket]? = some t) (success : Bool)
    (duration : Option α) (now : α) :
    Call.isEffective ⟨f, .complete monitor ticket success duration now⟩ ↔
      Monitor.Admits duration ∧ t.completed = false := by
  by_cases hadmits : Monitor.Admits duration
  · have hfilter := Monitor.filter_negative_eq_none_iff.mpr hadmits
    cases hcompleted : t.completed with
    | true =>
      have hcomplete : m.complete t success duration now = .ok (m, t) := by
        simp [Monitor.complete_eq, hfilter, hcompleted]
      simp [Call.isEffective, Call.isIgnored, Call.answer, apply, complete_eq, hm, ht, hcomplete,
        hcompleted, Except.isOk, Except.toBool]
    | false =>
      cases hrecord : m.recordOutcome success (t.duration duration now) now with
      | error e =>
        have hcomplete : m.complete t success duration now = .error (.arithmetic e) := by
          simp [Monitor.complete_eq, hfilter, hcompleted, hrecord]
        simp [Call.isEffective, Call.isRejected, Call.isIgnored, Call.answer, apply, complete_eq, hm,
          ht, hcomplete, hcompleted, hadmits]
      | ok recorded =>
        have happly := apply_complete_of_open hm ht hcompleted hadmits hrecord
        simp [Call.isEffective, Call.isRejected, Call.isIgnored, Call.answer, happly, ht,
          hcompleted, hadmits]
  · obtain ⟨given, rfl, hnegative⟩ : ∃ given, duration = some given ∧ given < Scalar.zero := by
      simpa [Monitor.Admits] using hadmits
    simp [Call.isEffective, Call.isRejected, Call.answer, hadmits,
      apply_complete_of_negative hm ht success hnegative now]

/-- What a run of hooks leaves, with all that hooks did before they failed. -/
def aftermath (f : Fleet α) (hooks : List (Hook α)) : Fleet α :=
  hooks.foldl (fun f h => (applyM h).left f) f

theorem aftermath_cons (f : Fleet α) (h : Hook α) (hooks : List (Hook α)) :
    f.aftermath (h :: hooks) = (Call.left ⟨f, h⟩).aftermath hooks := rfl

theorem aftermath_append (f : Fleet α) (hooks more : List (Hook α)) :
    f.aftermath (hooks ++ more) = (f.aftermath hooks).aftermath more :=
  List.foldl_append

/-- As long as the scalars can count the hooks, no hook fails in its arithmetic. -/
theorem Ready.apply_ne_arithmetic {limit n : Nat} (hα : Scalar.CountsBelow α limit)
    (hready : f.Ready n) (hn : n + 1 < limit) (h : Hook α) (error : ArithmeticError) :
    f.apply h ≠ .error (.completion (.arithmetic error)) := by
  intro herror
  cases h with
  | start monitor now =>
    cases hm : f.monitors[monitor]? with
    | none => simp [Fleet.apply, start_eq, hm] at herror
    | some m =>
      have hok := hready.isOk_start hα hn (List.getElem?_eq_some_iff.mp hm).1 now
      rw [herror] at hok
      cases hok
  | complete monitor ticket success duration now =>
    cases hm : f.monitors[monitor]? with
    | none => simp [Fleet.apply, complete_eq, hm] at herror
    | some m =>
      cases ht : f.tickets[ticket]? with
      | none => simp [Fleet.apply, complete_eq, hm, ht] at herror
      | some t =>
        have hiff := hready.isOk_complete_iff hα hn (List.getElem?_eq_some_iff.mp hm).1
          (List.getElem?_eq_some_iff.mp ht).1 success duration now
        rw [herror] at hiff
        have hrefused : ¬ Monitor.Admits duration := fun hadmits => by cases hiff.mpr hadmits
        obtain ⟨given, rfl, hnegative⟩ : ∃ given, duration = some given ∧ given < Scalar.zero := by
          simpa [Monitor.Admits] using hrefused
        rw [apply_complete_of_negative hm ht success hnegative now] at herror
        cases herror

/-- As long as the scalars can count the hooks, a run leaves what its hooks leave. -/
theorem Ready.aftermath_eq_run {limit n : Nat} (hα : Scalar.CountsBelow α limit)
    (hready : f.Ready n) {hooks : List (Hook α)} (hn : n + hooks.length < limit) :
    f.aftermath hooks = f.run hooks := by
  induction hooks generalizing f n with
  | nil => rfl
  | cons h hooks ih =>
    rw [List.length_cons] at hn
    have hleft : Call.left ⟨f, h⟩ = f.after h := by
      cases hanswer : applyM h f with
      | ok given g =>
        have happly := apply_eq_ok_iff.mpr hanswer
        exact (Work.left_of_ok hanswer).trans (after_of_ok happly).symm
      | error e g =>
        have happly : f.apply h = .error e := by
          rw [apply_eq, Work.final, hanswer]
        obtain rfl | ⟨error, rfl⟩ := applyM_eq_error hanswer
        · exact (Work.left_of_error hanswer).trans (after_of_error happly).symm
        · exact absurd happly (hready.apply_ne_arithmetic hα (by omega) h error)
    have hrest := hready.run [h]
    rw [aftermath_cons, run_cons, hleft]
    exact ih hrest (by rw [List.length_singleton]; omega)

/-- The calls of a run, each with what the calls before it have left. -/
def encounters (f : Fleet α) : List (Hook α) → List (Call α)
  | [] => []
  | h :: hooks => ⟨f, h⟩ :: (Call.left ⟨f, h⟩).encounters hooks

/-- A run without its completions without effect. -/
def effective (f : Fleet α) (hooks : List (Hook α)) : List (Hook α) :=
  ((f.encounters hooks).filter Call.isEffective).map Call.hook

theorem effective_cons_of_pos {h : Hook α} {hooks : List (Hook α)}
    (heffective : Call.isEffective ⟨f, h⟩) :
    f.effective (h :: hooks) = h :: (Call.left ⟨f, h⟩).effective hooks := by
  rw [effective, encounters, List.filter_cons_of_pos heffective, List.map_cons]
  rfl

theorem effective_cons_of_neg {h : Hook α} {hooks : List (Hook α)}
    (heffective : ¬ Call.isEffective ⟨f, h⟩) : f.effective (h :: hooks) = f.effective hooks := by
  rw [effective, encounters, List.filter_cons_of_neg heffective,
    Call.left_of_not_isEffective heffective]
  rfl

theorem aftermath_effective (f : Fleet α) (hooks : List (Hook α)) :
    f.aftermath (f.effective hooks) = f.aftermath hooks := by
  induction hooks generalizing f with
  | nil => rfl
  | cons h hooks ih =>
    by_cases heffective : Call.isEffective ⟨f, h⟩
    · rw [effective_cons_of_pos heffective, aftermath_cons, aftermath_cons, ih]
    · rw [effective_cons_of_neg heffective, aftermath_cons,
        Call.left_of_not_isEffective heffective, ih]

theorem encounters_effective (f : Fleet α) (hooks : List (Hook α)) :
    f.encounters (f.effective hooks) = (f.encounters hooks).filter Call.isEffective := by
  induction hooks generalizing f with
  | nil => rfl
  | cons h hooks ih =>
    by_cases heffective : Call.isEffective ⟨f, h⟩
    · rw [effective_cons_of_pos heffective, encounters, encounters,
        List.filter_cons_of_pos heffective, ih]
    · rw [effective_cons_of_neg heffective, encounters, List.filter_cons_of_neg heffective,
        Call.left_of_not_isEffective heffective, ih]

/-- One completion without effect can be left out wherever it is in a run. -/
theorem aftermath_append_cons_of_not_isEffective {before : List (Hook α)} {h : Hook α}
    (hineffective : ¬ Call.isEffective ⟨f.aftermath before, h⟩) (rest : List (Hook α)) :
    f.aftermath (before ++ h :: rest) = f.aftermath (before ++ rest) := by
  rw [aftermath_append, aftermath_cons, Call.left_of_not_isEffective hineffective,
    ← aftermath_append]

/-- A ticket without an accepted completion can be completed at every monitor, and the completion
records its outcome. -/
theorem IsNew.exists_applyM_complete {f : Fleet Float} (hf : f.IsNew) {hooks : List (Hook Float)}
    (hlength : hooks.length + 1 < 2 ^ 1023) {monitor ticket : Nat} {m : Monitor Float}
    {t : Ticket Float} (hm : (f.run hooks).monitors[monitor]? = some m)
    (ht : (f.run hooks).tickets[ticket]? = some t)
    (hnone : verdict? ticket (f.accepted hooks) = none) (success : Bool) {duration : Option Float}
    (hadmits : Monitor.Admits duration) (now : Float) :
    ∃ recorded, m.recordOutcome success (t.duration duration now) now = .ok recorded ∧
      applyM (.complete monitor ticket success duration now) (f.run hooks) =
        .ok () ⟨(f.run hooks).monitors.set monitor recorded,
          (f.run hooks).tickets.set ticket { t with completed := true }⟩ := by
  have hopen : t.completed = false := by
    rw [(hf.balanced_run hooks).completed_eq ticket t ht, hnone]
    rfl
  obtain ⟨recorded, hrecord, happly⟩ := exists_apply_complete_of_open Binary64.countsBelow
    (hf.ready_run hooks) hlength hm ht hopen success hadmits now
  exact ⟨recorded, hrecord, apply_eq_ok_iff.mp happly⟩

/-- A run of hooks leaves the same fleet, with all monitors and tickets, if the completions that were
rejected for a negative duration and those that were ignored are left out. Whatever a hook does
before it fails is in the fleet that it leaves: a completion with a negative duration is rejected
before it has touched the monitor or the ticket, and one of a ticket that was taken before is
accepted and changes nothing. All other completions have an effect. Every hook that is left meets
the fleet that it met before, so that it is answered alike; leaving out one such completion alone
makes no difference either. A ticket whose completions were all rejected is open, and the next
completion with a duration that is not negative records its outcome and takes it. -/
theorem run_without_ineffective_completions (f : Fleet Float) (hooks : List (Hook Float)) :
    f.aftermath (f.effective hooks) = f.aftermath hooks ∧
    f.encounters (f.effective hooks) = (f.encounters hooks).filter Call.isEffective ∧
    (∀ (g : Fleet Float) (monitor ticket : Nat) (m : Monitor Float) (t : Ticket Float),
      g.monitors[monitor]? = some m → g.tickets[ticket]? = some t →
      ∀ (success : Bool) (duration : Option Float) (now : Float),
        (∀ given, duration = some given → given < Scalar.zero →
          applyM (.complete monitor ticket success duration now) g =
            .error (.completion (.negativeDuration given)) g) ∧
        (Monitor.Admits duration → t.completed = true →
          applyM (.complete monitor ticket success duration now) g = .ok () g) ∧
        (Call.isEffective ⟨g, .complete monitor ticket success duration now⟩ ↔
          Monitor.Admits duration ∧ t.completed = false)) ∧
    (∀ (before : List (Hook Float)) (h : Hook Float) (rest : List (Hook Float)),
      ¬ Call.isEffective ⟨f.aftermath before, h⟩ →
        f.aftermath (before ++ h :: rest) = f.aftermath (before ++ rest)) ∧
    (f.IsNew → hooks.length < 2 ^ 1023 → f.aftermath hooks = f.run hooks) ∧
    (f.IsNew → hooks.length + 1 < 2 ^ 1023 →
      ∀ (monitor ticket : Nat) (m : Monitor Float) (t : Ticket Float),
        (f.run hooks).monitors[monitor]? = some m → (f.run hooks).tickets[ticket]? = some t →
        verdict? ticket (f.accepted hooks) = none →
        ∀ (success : Bool) (duration : Option Float) (now : Float), Monitor.Admits duration →
          ∃ recorded, m.recordOutcome success (t.duration duration now) now = .ok recorded ∧
            applyM (.complete monitor ticket success duration now) (f.run hooks) =
              .ok () ⟨(f.run hooks).monitors.set monitor recorded,
                (f.run hooks).tickets.set ticket { t with completed := true }⟩) := by
  refine ⟨aftermath_effective f hooks, encounters_effective f hooks, ?_, ?_, ?_, ?_⟩
  · intro g monitor ticket m t hm ht success duration now
    refine ⟨?_, ?_, isEffective_complete_iff hm ht success duration now⟩
    · rintro given rfl hnegative
      exact applyM_complete_of_negative hm ht success hnegative now
    · exact fun hadmits hcompleted =>
        applyM_complete_of_completed hm ht success hadmits hcompleted now
  · intro before h rest hineffective
    exact aftermath_append_cons_of_not_isEffective hineffective rest
  · intro hf hlength
    have hnone : f.Ready 0 := hf.ready
    exact hnone.aftermath_eq_run Binary64.countsBelow (by omega)
  · intro hf hlength monitor ticket m t hm ht hnone success duration now hadmits
    exact hf.exists_applyM_complete hlength hm ht hnone success hadmits now

/-- Of the six hooks of the crossing, the refused completion and the second one of the first ticket
are left out. After the refused one, the first ticket can still be completed. -/
theorem run_without_ineffective_completions_crossing :
    (pair.effective crossing).length = 4 ∧
    pair.aftermath (pair.effective crossing) = pair.run crossing ∧
    ∃ g, applyM (.complete 1 0 false none 3) (pair.run (crossing.take 3)) = .ok () g := by
  obtain ⟨haftermath, -, -, -, hrun, -⟩ := run_without_ineffective_completions pair crossing
  obtain ⟨-, -, -, -, -, hopen⟩ := run_without_ineffective_completions pair (crossing.take 3)
  refine ⟨by decide +kernel, haftermath.trans (hrun isNew_pair (by decide +kernel)), ?_⟩
  have hmonitor : 1 < (pair.run (crossing.take 3)).monitors.length := by decide +kernel
  have hticket : 0 < (pair.run (crossing.take 3)).tickets.length := by decide +kernel
  obtain ⟨recorded, -, happly⟩ := hopen isNew_pair (by decide +kernel) 1 0 _ _
    (List.getElem?_eq_getElem hmonitor) (List.getElem?_eq_getElem hticket) (by decide +kernel)
    false none 3 (by simp [Monitor.Admits])
  exact ⟨_, happly⟩

end Fleet

end SendMeter
