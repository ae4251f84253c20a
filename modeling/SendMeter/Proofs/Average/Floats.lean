import SendMeter.Proofs.History.Recorded
import SendMeter.Proofs.Scalar.Counting

namespace SendMeter

open Binary64

namespace Average

section Counted

variable {α : Type} [Scalar α] {limit n : Nat}

theorem exists_blend (hα : Scalar.CountsBelow α limit) (a : Average α) (value : α) {samples : Nat}
    (hpos : 0 < samples) (hlt : samples < limit) : ∃ b, a.blend value samples = .ok b := by
  obtain ⟨terms, share, hterms, hshare⟩ := hα.divide_ofCount samples hpos hlt
  have hweight : a.weight samples = .ok (Scalar.maximum a.alpha share) :=
    bind_eq_ok_iff.mpr ⟨terms, hterms, bind_eq_ok_iff.mpr ⟨share, hshare, rfl⟩⟩
  exact ⟨_, bind_eq_ok_iff.mpr ⟨_, hweight, rfl⟩⟩

theorem exists_append (hα : Scalar.CountsBelow α limit) {a : Average α} (hcount : a.count ≤ n)
    (hn : n + 1 < limit) (value now : α) : ∃ b, a.append value now = .ok b := by
  obtain ⟨b, hb⟩ := exists_blend hα a value (Nat.succ_pos a.count) (by omega)
  exact ⟨_, bind_eq_ok_iff.mpr ⟨b, hb, rfl⟩⟩

end Counted

variable {a : Average Float} {weight value : Float}

/-- A float by which a sample can be weighted. -/
structure IsWeight (w : Float) : Prop where
  isFinite : w.isFinite = true
  pos : 0 < toRat w
  le_one : toRat w ≤ 1

/-- A number of at least one, divided by one that is no smaller, is a weight. -/
theorem isWeight_div {x y : Float} (hx : x.isFinite = true) (hy : y.isFinite = true)
    (hone : 1 ≤ toRat x) (hle : toRat x ≤ toRat y) : IsWeight (x / y) := by
  have hypos : 0 < toRat y := by linarith
  have hnear := roundsTo_div hx hy hypos.ne'
  have hlow : least ≤ toRat x / toRat y := by
    have hrange := (le_abs_self _).trans (abs_toRat_le y)
    rw [le_div_iff₀ hypos]
    calc least * toRat y ≤ least * limit := mul_le_mul_of_nonneg_left hrange least_pos.le
      _ ≤ 1 := least_mul_limit_le_one
      _ ≤ toRat x := hone
  have hhigh : toRat x / toRat y ≤ ((1 : ℕ) : ℚ) := by
    rw [Nat.cast_one, div_le_one hypos]
    exact hle
  have hpos := hnear.pos hlow
  have hle_one := hnear.toRat_le (representable_natCast (by norm_num)) (by norm_num) hhigh
  have hlimit := two_pow_le_limit (show 1 ≤ 1024 by norm_num)
  rw [Nat.cast_one] at hle_one
  refine ⟨?_, hpos, hle_one⟩
  rw [isFinite_iff hnear.isNaN_eq, abs_of_pos hpos]
  linarith

theorem IsWeight.maximum {x y : Float} (hx : IsWeight x) (hy : IsWeight y) :
    IsWeight (Scalar.maximum x y) := by
  obtain ⟨-, heq⟩ | ⟨-, heq⟩ := Scalar.maximum_cases x y
  · rwa [heq]
  · rwa [heq]

theorem isWeight_alpha {window : Int} (h : create window = .ok a) : IsWeight a.alpha := by
  obtain ⟨hwindow, alpha, halpha, rfl⟩ := create_eq_ok h
  obtain ⟨terms, hterms, hdivide⟩ := bind_eq_ok_iff.mp halpha
  obtain ⟨hfinite, rfl⟩ := ofInt_eq_ok hterms
  obtain ⟨-, rfl⟩ := divide_eq_ok hdivide
  obtain ⟨n, hn⟩ : ∃ n : Nat, window + 1 = n := ⟨(window + 1).toNat, by omega⟩
  have hle := le_toRat_ofInt (k := 2) (n := n) (by norm_num) (by omega)
  rw [hn] at hfinite ⊢
  refine isWeight_div rfl hfinite ?_ ?_
  · rw [toRat_two]
    norm_num
  · rw [toRat_two]
    exact_mod_cast hle

/-- Every sample has a weight, if the average has one for the long run. -/
theorem isWeight_weight (halpha : IsWeight a.alpha) {samples : Nat} (hpos : 0 < samples)
    (h : a.weight samples = .ok weight) : IsWeight weight := by
  obtain ⟨terms, hterms, h⟩ := bind_eq_ok_iff.mp h
  obtain ⟨share, hshare, h⟩ := bind_eq_ok_iff.mp h
  cases h
  obtain ⟨hfinite, rfl⟩ := ofInt_eq_ok hterms
  obtain ⟨-, rfl⟩ := divide_eq_ok hshare
  have hle := le_toRat_ofInt (k := 1) (n := samples) (by norm_num) hpos
  refine halpha.maximum (isWeight_div rfl hfinite ?_ ?_)
  · rw [toRat_one]
  · rw [toRat_one]
    exact_mod_cast hle

section Fold

variable (hweight : IsWeight weight)
include hweight

/-- A finite sample leaves a number. -/
theorem isNaN_mean_fold (hmean : a.mean.isFinite = true) (hvalue : value.isFinite = true) :
    (a.fold weight value).mean.isNaN = false := by
  have hdifference := (roundsTo_sub hvalue hmean).isNaN_eq
  exact isNaN_add hmean (isNaN_mul hweight.isFinite hweight.pos hdifference)

/-- An infinite sample makes the mean infinite. -/
theorem toRat_mean_fold_of_top (hmean : a.mean.isFinite = true) (hvalue : toRat value = limit) :
    toRat (a.fold weight value).mean = limit := by
  have hdifference := toRat_sub_of_top hvalue hmean
  exact toRat_add_of_top hmean (toRat_mul_of_top hweight.isFinite hweight.pos hdifference)

omit hweight in
theorem isNaN_mean_fold_left (hmean : a.mean.isNaN = true) :
    (a.fold weight value).mean.isNaN = true :=
  isNaN_add_left hmean _

omit hweight in
theorem isNaN_mean_fold_right (hvalue : value.isNaN = true) :
    (a.fold weight value).mean.isNaN = true :=
  isNaN_add_right _ (isNaN_mul_right _ (isNaN_sub_left hvalue _))

/-- After an infinite mean, the next sample leaves no number. -/
theorem isNaN_mean_fold_of_top (hmean : toRat a.mean = limit) (hvalue : ¬ value < 0) :
    (a.fold weight value).mean.isNaN = true := by
  have hlimit := limit_pos
  cases hnan : value.isNaN with
  | true => exact isNaN_mean_fold_right hnan
  | false =>
    rw [lt_iff hnan isNaN_zero, toRat_zero] at hvalue
    obtain hfinite | htop | hbottom := toRat_cases hnan
    · have hdifference := toRat_sub_top hfinite hmean
      exact isNaN_add_of_top_of_bottom hmean
        (toRat_mul_of_bottom hweight.isFinite hweight.pos hdifference)
    · exact isNaN_add_right _ (isNaN_mul_right _ (isNaN_sub_of_top htop hmean))
    · linarith

/-- A sample that is not negative leaves a mean that is not negative. If it is below the mean, the
mean falls; if not, the mean rises at most to twice the sample, since the sum of the mean and of
what is added to it is rounded once more. -/
theorem mean_fold_bounds (hmean : a.mean.isFinite = true) (hvalue : value.isFinite = true)
    (hmean_nonneg : 0 ≤ toRat a.mean) (hvalue_nonneg : 0 ≤ toRat value) :
    0 ≤ toRat (a.fold weight value).mean ∧
      toRat (a.fold weight value).mean ≤ max (toRat a.mean) (2 * toRat value) := by
  obtain ⟨hw, hpos, hle_one⟩ := hweight
  have hdifference := roundsTo_sub hvalue hmean
  obtain hbelow | habove := le_total (toRat value) (toRat a.mean)
  · have hfinite := hdifference.isFinite hmean (by linarith) (by linarith)
    have hlow : -toRat a.mean ≤ toRat (value - a.mean) := hdifference.neg_toRat_le (by linarith)
    have hhigh : toRat (value - a.mean) ≤ 0 := hdifference.nonpos (by linarith)
    have hincrement := roundsTo_mul hw hfinite
    have hlow' : -toRat a.mean ≤ toRat (weight * (value - a.mean)) :=
      hincrement.neg_toRat_le (by nlinarith)
    have hhigh' : toRat (weight * (value - a.mean)) ≤ 0 := hincrement.nonpos (by nlinarith)
    have hsum := roundsTo_add hmean (hincrement.isFinite hmean (by nlinarith) (by nlinarith))
    exact ⟨hsum.nonneg (by linarith), le_max_of_le_left (hsum.toRat_le_toRat (by linarith))⟩
  · have hfinite := hdifference.isFinite hvalue (by linarith) (by linarith)
    have hlow : 0 ≤ toRat (value - a.mean) := hdifference.nonneg (by linarith)
    have hhigh : toRat (value - a.mean) ≤ toRat value := hdifference.toRat_le_toRat (by linarith)
    have hincrement := roundsTo_mul hw hfinite
    have hlow' : 0 ≤ toRat (weight * (value - a.mean)) := hincrement.nonneg (by positivity)
    have hhigh' : toRat (weight * (value - a.mean)) ≤ toRat value :=
      hincrement.toRat_le_toRat (by nlinarith)
    have hsum := roundsTo_add hmean (hincrement.isFinite hvalue (by nlinarith) (by nlinarith))
    have hdouble : Representable (2 * toRat value) := by
      have h := (representable_toRat value).mul_two_pow 1
      rwa [pow_one, mul_comm] at h
    exact ⟨hsum.nonneg (by linarith),
      le_max_of_le_right (hsum.toRat_le hdouble (by linarith) (by linarith))⟩

end Fold

/-- Whatever is recorded, the variance is not negative. -/
theorem zero_le_variance_fold (a : Average Float) (weight value : Float) :
    0 ≤ (a.fold weight value).variance :=
  Scalar.zero_le_maximum _

end Average

end SendMeter
