import SendMeter.Proofs.Scalar.Arithmetic

namespace SendMeter.Binary64

/-- The ticks of a clock: a power of two, no shorter than the least positive float. -/
def IsTick (tick : ℚ) : Prop :=
  ∃ k : ℕ, k ≤ 1074 ∧ tick * 2 ^ k = 1

/-- A finite reading of a clock that counts ticks. -/
structure Reading (tick : ℚ) (x : Float) : Prop where
  isFinite : x.isFinite = true
  exists_ticks : ∃ n : ℤ, toRat x = n * tick

variable {tick : ℚ} {x y : Float}

theorem isTick_least : IsTick least := by
  refine ⟨1074, le_rfl, ?_⟩
  rw [least, ← zpow_natCast, ← zpow_add₀ two_ne_zero]
  norm_num

/-- Whatever the clock, its finite readings are multiples of the least positive float. -/
theorem reading_least (hx : x.isFinite = true) : Reading least x :=
  ⟨hx, (representable_toRat x).exists_multiple⟩

/-- A clock may count whole seconds. -/
theorem isTick_one : IsTick 1 :=
  ⟨0, by norm_num, by norm_num⟩

theorem reading_ofInt {n : ℕ} (hn : n ≤ 2 ^ 53) : Reading 1 (Float.ofInt n) := by
  obtain ⟨hfinite, hexact⟩ := (roundsTo_ofInt n).isFinite_natCast hn
  refine ⟨hfinite, n, ?_⟩
  rw [hexact, mul_one, Int.cast_natCast]

namespace IsTick

variable (htick : IsTick tick)
include htick

theorem pos : 0 < tick := by
  obtain ⟨k, -, hk⟩ := htick
  exact pos_of_mul_pos_left (hk ▸ one_pos) (by positivity)

theorem le_one : tick ≤ 1 := by
  have hpos := htick.pos
  obtain ⟨k, -, hk⟩ := htick
  calc tick = tick * 1 := (mul_one tick).symm
    _ ≤ tick * 2 ^ k := mul_le_mul_of_nonneg_left (one_le_pow₀ one_le_two) hpos.le
    _ = 1 := hk

theorem div_eq (v : ℚ) : ∃ k : ℕ, v / tick = v * 2 ^ k := by
  have hpos := htick.pos
  obtain ⟨k, -, hk⟩ := htick
  refine ⟨k, (div_eq_iff hpos.ne').mpr ?_⟩
  rw [mul_assoc, mul_comm _ tick, hk, mul_one]

theorem representable : Representable tick := by
  obtain ⟨k, hk, heq⟩ := htick
  have htick' : tick = 2 ^ (-(k : ℤ)) := by
    rw [zpow_neg, zpow_natCast]
    exact eq_inv_of_mul_eq_one_left heq
  rw [htick']
  exact representable_two_pow (by omega)

theorem representable_div {v : ℚ} (hv : Representable v) : Representable (v / tick) := by
  obtain ⟨k, heq⟩ := htick.div_eq v
  rw [heq]
  exact hv.mul_two_pow k

/-- Readings that differ are at least a tick apart, also after rounding. -/
theorem le_toRat_sub (hx : Reading tick x) (hy : Reading tick y) (hlt : y < x) :
    tick ≤ toRat (x - y) := by
  rw [lt_iff (isNaN_of_isFinite hy.isFinite) (isNaN_of_isFinite hx.isFinite)] at hlt
  obtain ⟨m, hm⟩ := hx.exists_ticks
  obtain ⟨n, hn⟩ := hy.exists_ticks
  have hnm : (n : ℚ) < m := lt_of_mul_lt_mul_right (hn ▸ hm ▸ hlt) htick.pos.le
  have hnm' : (n : ℚ) + 1 ≤ m := by exact_mod_cast (by exact_mod_cast hnm : n < m)
  have hexact : tick ≤ toRat x - toRat y := by
    rw [hm, hn, ← sub_mul]
    exact le_mul_of_one_le_left htick.pos.le (by linarith)
  have hlimit : tick ≤ limit := htick.le_one.trans (by simpa using two_pow_le_limit (Nat.zero_le _))
  have hnear := roundsTo_sub hx.isFinite hy.isFinite
  exact (le_min le_rfl hlimit).trans
    (hnear.min_le_toRat htick.representable htick.pos.le hexact)

end IsTick

end SendMeter.Binary64
