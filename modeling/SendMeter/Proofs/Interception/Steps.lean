import SendMeter.Interception.Task
import SendMeter.Proofs.Fleet.Verdicts

namespace SendMeter

variable {α : Type} [Scalar α] {f g : Fleet α} {now : α}

namespace Task

variable {t after : Task}

theorem resume_eq_ok_iff :
    t.resume f now = .ok (after, g) ↔ t.resumeM now f = .ok after g := by
  unfold resume Work.result
  cases t.resumeM now f with
  | ok given left => simp [Except.map, Prod.swap_prod_mk]
  | error e left => simp [Except.map]

/-- A task is resumed after it was suspended, or for the first time: then it starts its send. -/
theorem resume_eq_ok (h : t.resume f now = .ok (after, g)) :
    (t.phase = .suspended ∧ after = { t with phase := .running } ∧ g = f) ∨
    (t.phase = .unstarted ∧ f.start t.block.monitor now = .ok g ∧
      after = ⟨{ t.block with ticket := some f.nextTicket }, .running⟩) := by
  have h := resume_eq_ok_iff.mp h
  rw [resumeM_eq] at h
  cases hphase : t.phase with
  | ended => simp [hphase] at h
  | running => simp [hphase] at h
  | suspended =>
    rw [hphase] at h
    cases h
    exact .inl ⟨rfl, rfl, rfl⟩
  | unstarted =>
    simp only [hphase] at h
    cases hstart : f.start t.block.monitor now with
    | error e => simp [hstart] at h
    | ok started =>
      rw [hstart] at h
      cases h
      exact .inr ⟨rfl, rfl, rfl⟩

theorem resumeM_eq_error {e : TaskError α} (h : t.resumeM now f = .error e g) : g = f := by
  rw [resumeM_eq] at h
  split at h
  · cases h
    rfl
  · cases h
    rfl
  · cases h
  · split at h
    · cases h
      rfl
    · cases h

theorem resume_unstarted_eq_ok (hphase : t.phase = .unstarted)
    (h : t.resume f now = .ok (after, g)) : f.start t.block.monitor now = .ok g ∧
      after = ⟨{ t.block with ticket := some f.nextTicket }, .running⟩ := by
  obtain ⟨hsuspended, -⟩ | ⟨-, hstart⟩ := resume_eq_ok h
  · rw [hphase] at hsuspended
    cases hsuspended
  · exact hstart

theorem resume_suspended_eq_ok (hphase : t.phase = .suspended)
    (h : t.resume f now = .ok (after, g)) : after = { t with phase := .running } ∧ g = f := by
  obtain ⟨-, hsame⟩ | ⟨hunstarted, -⟩ := resume_eq_ok h
  · exact hsame
  · rw [hphase] at hunstarted
    cases hunstarted

theorem held_of_finishM {success held : Bool} (h : t.finishM success now f = .ok (after, held) g) :
    held = false := by
  rw [finishM_eq] at h
  split at h
  · cases h
  · split at h
    · cases h
    · cases h
      rfl

theorem finish_eq_ok_iff {success : Bool} :
    t.finish success f now = .ok (after, g) ↔ t.finishM success now f = .ok (after, false) g := by
  unfold finish Work.result
  cases hfinish : t.finishM success now f with
  | error e left => simp [Except.map]
  | ok given left =>
    obtain ⟨ended, held⟩ := given
    obtain rfl := held_of_finishM hfinish
    simp [Except.map]

/-- A task that ends completes its ticket. -/
theorem finish_eq_ok {success : Bool} (h : t.finish success f now = .ok (after, g)) :
    ∃ ticket, t.block.ticket = some ticket ∧
      f.complete t.block.monitor ticket success none now = .ok g ∧
      after = { t with phase := .ended } := by
  have h := finish_eq_ok_iff.mp h
  rw [finishM_eq] at h
  cases hticket : t.block.ticket with
  | none => simp [hticket] at h
  | some ticket =>
    simp only [hticket] at h
    split at h
    · cases h
    next hcomplete =>
      cases h
      exact ⟨ticket, rfl, hcomplete, rfl⟩

theorem finishM_eq_error {success : Bool} {e : TaskError α}
    (h : t.finishM success now f = .error e g) : g = f := by
  rw [finishM_eq] at h
  split at h
  · cases h
    rfl
  · split at h
    · cases h
      rfl
    · cases h

theorem finish_eq_ok_of_ticket {ticket : Nat} (hticket : t.block.ticket = some ticket)
    {success : Bool} (h : t.finish success f now = .ok (after, g)) :
    f.complete t.block.monitor ticket success none now = .ok g ∧
      after = { t with phase := .ended } := by
  obtain ⟨held, hheld, hcomplete, hafter⟩ := finish_eq_ok h
  rw [hticket] at hheld
  cases hheld
  exact ⟨hcomplete, hafter⟩

/-- Whatever is thrown into a task, it is not held back. -/
theorem held_of_cancelM {held : Bool} (h : t.cancelM now f = .ok (after, held) g) :
    held = false := by
  unfold cancelM at h
  cases hphase : t.phase with
  | ended => simp [hphase] at h
  | running => simp [hphase] at h
  | unstarted =>
    rw [hphase] at h
    cases h
    rfl
  | suspended =>
    rw [hphase] at h
    exact held_of_finishM h

theorem cancel_eq_ok_iff :
    t.cancel f now = .ok (after, g) ↔ t.cancelM now f = .ok (after, false) g := by
  unfold cancel Work.result
  cases hcancel : t.cancelM now f with
  | error e left => simp [Except.map]
  | ok given left =>
    obtain ⟨ended, held⟩ := given
    obtain rfl := held_of_cancelM hcancel
    simp [Except.map]

/-- A task that is ended from outside was not resumed yet, and then leaves the fleet alone, or was
suspended, and then its send has failed. -/
theorem cancel_eq_ok (h : t.cancel f now = .ok (after, g)) :
    (t.phase = .unstarted ∧ after = { t with phase := .ended } ∧ g = f) ∨
    (t.phase = .suspended ∧ t.finish false f now = .ok (after, g)) := by
  have h := cancel_eq_ok_iff.mp h
  unfold cancelM at h
  cases hphase : t.phase with
  | ended => simp [hphase] at h
  | running => simp [hphase] at h
  | unstarted =>
    rw [hphase] at h
    cases h
    exact .inl ⟨rfl, rfl, rfl⟩
  | suspended =>
    simp only [hphase] at h
    exact .inr ⟨rfl, finish_eq_ok_iff.mpr h⟩

theorem cancelM_eq_error {e : TaskError α} (h : t.cancelM now f = .error e g) : g = f := by
  unfold cancelM at h
  cases hphase : t.phase with
  | ended =>
    rw [hphase] at h
    cases h
    rfl
  | running =>
    rw [hphase] at h
    cases h
    rfl
  | unstarted =>
    rw [hphase] at h
    cases h
  | suspended =>
    rw [hphase] at h
    exact finishM_eq_error h

theorem cancel_unstarted_eq_ok (hphase : t.phase = .unstarted)
    (h : t.cancel f now = .ok (after, g)) : after = { t with phase := .ended } ∧ g = f := by
  obtain ⟨-, hsame⟩ | ⟨hsuspended, -⟩ := cancel_eq_ok h
  · exact hsame
  · rw [hphase] at hsuspended
    cases hsuspended

theorem cancel_suspended_eq_ok (hphase : t.phase = .suspended)
    (h : t.cancel f now = .ok (after, g)) : t.finish false f now = .ok (after, g) := by
  obtain ⟨hunstarted, -⟩ | ⟨-, hfinish⟩ := cancel_eq_ok h
  · rw [hphase] at hunstarted
    cases hunstarted
  · exact hfinish

theorem isOk_resume (hphase : t.phase = .unstarted) (h : (f.start t.block.monitor now).isOk) :
    (t.resume f now).isOk := by
  obtain ⟨g, hg⟩ := isOk_iff_exists.mp h
  rw [isOk_iff_exists]
  have hresume : t.resumeM now f =
      .ok ⟨{ t.block with ticket := some f.nextTicket }, .running⟩ g := by
    simp only [resumeM_eq, hphase, hg]
  exact ⟨_, resume_eq_ok_iff.mpr hresume⟩

theorem isOk_finish {ticket : Nat} (hticket : t.block.ticket = some ticket) {success : Bool}
    (h : (f.complete t.block.monitor ticket success none now).isOk) :
    (t.finish success f now).isOk := by
  obtain ⟨g, hg⟩ := isOk_iff_exists.mp h
  rw [isOk_iff_exists]
  have hfinish : t.finishM success now f = .ok ({ t with phase := .ended }, false) g := by
    simp only [finishM_eq, hticket, hg]
  exact ⟨_, finish_eq_ok_iff.mpr hfinish⟩

theorem isOk_cancel (hphase : t.phase = .suspended) (h : (t.finish false f now).isOk) :
    (t.cancel f now).isOk := by
  simp only [cancel, cancelM, hphase]
  exact h

end Task

end SendMeter
