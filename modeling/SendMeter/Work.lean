namespace SendMeter

/-- Work on a state that can fail. What was done to the state before a failure stays done. -/
abbrev Work (σ ε : Type) := EStateM ε σ

namespace Work

variable {σ τ ε ε' β γ : Type}

/-- The state that is left, whether or not the work failed. -/
def left (w : Work σ ε β) (s : σ) : σ :=
  match w s with
  | .ok _ s => s
  | .error _ s => s

/-- The state and what was given for it, unless the work failed. -/
def result (w : Work σ ε β) (s : σ) : Except ε (σ × β) :=
  match w s with
  | .ok given s => .ok (s, given)
  | .error e _ => .error e

/-- The state alone, unless the work failed. -/
def final (w : Work σ ε β) (s : σ) : Except ε σ :=
  match w s with
  | .ok _ s => .ok s
  | .error e _ => .error e

def mapError (f : ε → ε') (w : Work σ ε β) : Work σ ε' β := fun s =>
  match w s with
  | .ok given s => .ok given s
  | .error e s => .error (f e) s

/-- Tries to do the work, and goes on with the state that it left, whether or not it failed. -/
def attempt (w : Work σ ε β) : Work σ ε' (Except ε β) := fun s =>
  match w s with
  | .ok given s => .ok (.ok given) s
  | .error e s => .ok (.error e) s

/-- Work on a part of the state. The part is put back as it was left, also by a failure. -/
def within (part : τ) (putBack : σ → τ → σ) (w : Work τ ε β) : Work σ ε β := fun s =>
  match w part with
  | .ok given part => .ok given (putBack s part)
  | .error e part => .error e (putBack s part)

variable {w : Work σ ε β} {f : β → Work σ ε γ} {s s' : σ} {e : ε}

@[simp] theorem bind_apply : (w >>= f) s =
    match w s with
    | .ok given s => f given s
    | .error e s => .error e s := by
  show EStateM.bind w f s = _
  unfold EStateM.bind
  cases w s with
  | ok given t => rfl
  | error e t => rfl

@[simp] theorem map_apply (g : β → γ) : (g <$> w) s =
    match w s with
    | .ok given s => .ok (g given) s
    | .error e s => .error e s := by
  show EStateM.map g w s = _
  unfold EStateM.map
  cases w s with
  | ok given t => rfl
  | error e t => rfl

@[simp] theorem pure_apply (given : β) (s : σ) : (pure given : Work σ ε β) s = .ok given s := rfl

@[simp] theorem throw_apply (e : ε) (s : σ) : (throw e : Work σ ε β) s = .error e s := rfl

@[simp] theorem get_apply (s : σ) : (get : Work σ ε σ) s = .ok s s := rfl

@[simp] theorem get_bind_apply (g : σ → Work σ ε β) (s : σ) : (get >>= g) s = g s s := rfl

@[simp] theorem set_apply (s s' : σ) : (set s' : Work σ ε PUnit) s = .ok ⟨⟩ s' := rfl

@[simp] theorem modify_apply (g : σ → σ) (s : σ) : (modify g : Work σ ε PUnit) s = .ok ⟨⟩ (g s) :=
  rfl

@[simp] theorem modifyGet_apply (g : σ → β × σ) (s : σ) :
    (modifyGet g : Work σ ε β) s = .ok (g s).1 (g s).2 := rfl

@[simp] theorem tryCatch_apply (handle : ε → Work σ ε β) : (tryCatch w handle : Work σ ε β) s =
    match w s with
    | .ok given s => .ok given s
    | .error e s => handle e s := by
  show EStateM.tryCatch w handle s = _
  unfold EStateM.tryCatch
  cases w s with
  | ok given t => rfl
  | error e t => rfl

@[simp] theorem ofExcept_ok (given : β) (s : σ) :
    (ofExcept (.ok given) : Work σ ε β) s = .ok given s := rfl

@[simp] theorem ofExcept_error (e : ε) (s : σ) :
    (ofExcept (.error e) : Work σ ε β) s = .error e s := rfl

/-- Work in two parts is done if both parts are. -/
theorem bind_eq_ok_iff {given : γ} :
    (w >>= f) s = .ok given s' ↔ ∃ first t, w s = .ok first t ∧ f first t = .ok given s' := by
  rw [bind_apply]
  cases w s with
  | ok first t =>
    constructor
    · exact fun h => ⟨first, t, rfl, h⟩
    · rintro ⟨_, _, ⟨⟩, h⟩
      exact h
  | error e t => simp

/-- Work in two parts fails in its first part, or in the second after the first is done. -/
theorem bind_eq_error_iff :
    (w >>= f) s = .error e s' ↔
      w s = .error e s' ∨ ∃ first t, w s = .ok first t ∧ f first t = .error e s' := by
  rw [bind_apply]
  cases w s with
  | ok first t =>
    constructor
    · exact fun h => .inr ⟨first, t, rfl, h⟩
    · rintro (h | ⟨_, _, ⟨⟩, h⟩)
      · cases h
      · exact h
  | error e t => simp

theorem bind_of_ok {first : β} {t : σ} (h : w s = .ok first t) : (w >>= f) s = f first t := by
  rw [bind_apply, h]

theorem bind_of_error {t : σ} (h : w s = .error e t) : (w >>= f) s = .error e t := by
  rw [bind_apply, h]

theorem result_eq_ok_iff {given : β} : w.result s = .ok (s', given) ↔ w s = .ok given s' := by
  unfold result
  cases w s with
  | ok first t => simp [and_comm]
  | error e t => simp

theorem final_eq_ok_iff : w.final s = .ok s' ↔ ∃ given, w s = .ok given s' := by
  unfold final
  cases w s with
  | ok first t => simp
  | error e t => simp

theorem final_eq_error_iff : w.final s = .error e ↔ ∃ s', w s = .error e s' := by
  unfold final
  cases w s with
  | ok first t => simp
  | error e t => simp

theorem left_of_ok {given : β} (h : w s = .ok given s') : w.left s = s' := by
  rw [left, h]

theorem left_of_error (h : w s = .error e s') : w.left s = s' := by
  rw [left, h]

theorem left_ofExcept (x : Except ε β) (s : σ) : (ofExcept x : Work σ ε β).left s = s := by
  cases x with
  | error e => rfl
  | ok given => rfl

theorem left_map (g : β → γ) (s : σ) : (g <$> w).left s = w.left s := by
  unfold left
  rw [map_apply]
  cases w s with
  | ok given t => rfl
  | error e t => rfl

theorem left_mapError (g : ε → ε') (s : σ) : (w.mapError g).left s = w.left s := by
  unfold left mapError
  cases w s with
  | ok given t => rfl
  | error e t => rfl

/-- Work in two parts leaves the state as it was if both parts do. -/
theorem left_bind (hw : w.left s = s) (hf : ∀ given, (f given).left s = s) :
    Work.left (w >>= f) s = s := by
  unfold left at hw ⊢
  rw [bind_apply]
  cases h : w s with
  | ok given t =>
    rw [h] at hw
    dsimp only at hw ⊢
    rw [hw]
    exact hf given
  | error e t =>
    rw [h] at hw
    exact hw

theorem mapError_eq_ok_iff {g : ε → ε'} {given : β} :
    w.mapError g s = .ok given s' ↔ w s = .ok given s' := by
  unfold mapError
  cases w s with
  | ok first t => simp
  | error e t => simp

theorem attempt_apply : (w.attempt : Work σ ε' (Except ε β)) s =
    match w s with
    | .ok given s => .ok (.ok given) s
    | .error e s => .ok (.error e) s := rfl

theorem mapError_eq_error_iff {g : ε → ε'} {e' : ε'} :
    w.mapError g s = .error e' s' ↔ ∃ e, w s = .error e s' ∧ g e = e' := by
  unfold mapError
  cases w s with
  | ok first t => simp
  | error e t =>
    constructor
    · intro h
      cases h
      exact ⟨e, rfl, rfl⟩
    · rintro ⟨_, ⟨⟩, rfl⟩
      rfl

end Work

end SendMeter
