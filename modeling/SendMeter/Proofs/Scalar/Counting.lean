import SendMeter.Proofs.Scalar.Floats
import SendMeter.Proofs.Scalar.Rational

namespace SendMeter

/-- Scalars that can count below a limit: a number that is positive, or at least not zero or less,
can be divided by, and so can the counts below the limit. -/
structure Scalar.CountsBelow (α : Type) [Scalar α] (limit : Nat) : Prop where
  divide_of_pos : ∀ (a : α) {b : α}, Scalar.zero < b → ∃ q, Scalar.divide a b = .ok q
  divide_of_not_le : ∀ (a : α) {b : α}, ¬ b ≤ Scalar.zero → ∃ q, Scalar.divide a b = .ok q
  divide_ofCount : ∀ count, 0 < count → count < limit →
    ∃ terms share : α, Scalar.ofCount count = .ok terms ∧ Scalar.divide Scalar.one terms = .ok share

theorem Scalar.countsBelow_rat (limit : Nat) : CountsBelow Rat limit where
  divide_of_pos _ _ hb := ⟨_, divide_rat (ne_of_gt hb)⟩
  divide_of_not_le _ _ hb := ⟨_, divide_rat (not_le.mp hb).ne'⟩
  divide_ofCount _ hpos _ :=
    ⟨_, _, ofCount_rat _, divide_rat (by exact_mod_cast hpos.ne')⟩

namespace Binary64

/-- Floats can count below half of their range. -/
theorem countsBelow : Scalar.CountsBelow Float (2 ^ 1023) where
  divide_of_pos a _ hb := ⟨_, divide_of_beq_zero a (beq_zero_of_pos hb)⟩
  divide_of_not_le a _ hb := ⟨_, divide_of_beq_zero a (beq_zero_of_not_le hb)⟩
  divide_ofCount count hpos hlt := by
    obtain ⟨hfinite, hone⟩ := isFinite_ofInt hpos hlt (by decide)
    exact ⟨_, _, ofCount_of_isFinite hfinite,
      divide_of_beq_zero Scalar.one (beq_zero_of_ne (by linarith))⟩

end Binary64

end SendMeter
