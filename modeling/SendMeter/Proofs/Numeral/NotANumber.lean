import SendMeter.Numeral.Real
import SendMeter.Proofs.Scalar.Arithmetic

open Float.Model Float.Model.UnpackedFloat

namespace SendMeter

namespace Binary64

theorem isNaN_unpack_packComponents (sign : Sign) {exponent : BitVec 11} (mantissa : BitVec 52)
    (h : exponent ≠ -1#11) :
    (UnpackedFloat.unpack .binary64
      (packComponents .binary64 sign exponent mantissa)).isNaN = false := by
  simp only [UnpackedFloat.unpack, unpackExponent_packComponents, unpackMantissa_packComponents]
  rw [if_neg h]
  split
  · split
    · rfl
    · rfl
  · rfl

theorem isNaN_unpack_pack {x : UnpackedFloat} (h : x.isNaN = false) :
    (pack x).unpack.isNaN = false := by
  cases x with
  | notANumber => cases h
  | infinity sign => cases sign <;> rfl
  | zero sign => cases sign <;> rfl
  | finite sign m e h =>
    simp only [Float.Model.unpack, Float.Model.pack, UnpackedFloat.pack]
    split
    · cases sign <;> rfl
    next hfits =>
      split
      · refine isNaN_unpack_packComponents sign _ fun heq => hfits ?_
        have hnat : (BitVec.ofNat 11 _).toNat = 2047 := congrArg BitVec.toNat heq
        have hbits : 2 ^ Format.binary64.exponentBits = 2048 := rfl
        rw [BitVec.toNat_ofNat] at hnat
        omega
      · exact isNaN_unpack_packComponents sign _ (by decide)

private theorem isNaN_neg (x : Float) : (-x).isNaN = x.isNaN := by
  have hneg : (-x).isNaN = (pack x.toModel.unpack.neg).unpack.isNaN := rfl
  have hx : x.isNaN = x.toModel.unpack.isNaN := rfl
  rw [hneg, hx]
  cases x.toModel.unpack with
  | notANumber => rfl
  | infinity sign => exact isNaN_unpack_pack rfl
  | zero sign => exact isNaN_unpack_pack rfl
  | finite sign m e h => exact isNaN_unpack_pack rfl

theorem isNaN_roundWithAccuracy (sign : Sign) (m : Nat) (e : Int) (accuracy : Accuracy) :
    (roundWithAccuracy .binary64 sign m e accuracy).isNaN = false := by
  simp only [roundWithAccuracy]
  split
  · rfl
  · rfl

theorem isNaN_unpacked_ofScientific (m : Nat) (e : Int) :
    (UnpackedFloat.ofScientific .binary64 m e).isNaN = false := by
  unfold UnpackedFloat.ofScientific
  split
  · rfl
  split
  · rfl
  split
  · rfl
  split
  · exact isNaN_roundWithAccuracy _ _ _ _
  · exact isNaN_roundWithAccuracy _ _ _ _

/-- The powers of ten that are floats themselves. -/
theorem isFinite_powersOfTen : ∀ i : Fin 23,
    Float.exactlyRepresentablePowersOfTen[i].isFinite = true ∧
      (Float.exactlyRepresentablePowersOfTen[i] == 0) = false := by
  decide +kernel

theorem isNaN_ofScientific (m : Nat) (negative : Bool) (e : Nat) :
    (Float.ofScientific m negative e).isNaN = false := by
  unfold Float.ofScientific
  split
  next h =>
    obtain ⟨hfinite, -⟩ := toRat_toFloat h.1
    obtain ⟨hten, hne⟩ := isFinite_powersOfTen ⟨e, by omega⟩
    cases negative with
    | false => exact (roundsTo_mul hfinite hten).isNaN_eq
    | true =>
      refine (roundsTo_div hfinite hten fun hzero => ?_).isNaN_eq
      rw [(beq_zero_iff (isNaN_of_isFinite hten)).mpr hzero] at hne
      cases hne
  · exact isNaN_unpack_pack (isNaN_unpacked_ofScientific _ _)

end Binary64

namespace Numeral

variable {cs : List Char}

theorem isNaN_value (real : RealText) : real.value.isNaN = true ↔ real = .notANumber := by
  cases real with
  | notANumber => exact iff_of_true rfl rfl
  | infinity => exact iff_of_false (by decide +kernel) (by rintro ⟨⟩)
  | digits ds scale =>
    refine iff_of_false ?_ (by rintro ⟨⟩)
    unfold RealText.value
    dsimp only
    split
    · exact Bool.false_ne_true
    split
    · exact (by decide +kernel : ¬ (1 / 0 : Float).isNaN = true)
    · rw [Binary64.isNaN_ofScientific]
      exact Bool.false_ne_true

private theorem exists_digits_of_decimal? {real : RealText} (h : decimal? cs = some real) :
    ∃ ds scale, real = .digits ds scale := by
  simp only [decimal?] at h
  split_ifs at h
  obtain ⟨exponent, -, rfl⟩ := Option.map_eq_some_iff.mp h
  exact ⟨_, _, rfl⟩

/-- Whether a text, apart from a sign, is the name of what is not a number. Upper and lower case are
the same. -/
def isNoNumber (cs : List Char) : Bool :=
  String.ofList ((splitSign cs).2.map Char.toLower) = "nan"

theorem isNaN_realOfAscii? {x : Float} (h : realOfAscii? cs = some x) :
    x.isNaN = isNoNumber cs := by
  obtain ⟨real, hreal, rfl⟩ := Option.map_eq_some_iff.mp h
  have hsign (negative : Bool) :
      (if negative then -real.value else real.value).isNaN = real.value.isNaN := by
    cases negative with
    | true => exact Binary64.isNaN_neg _
    | false => rfl
  rw [hsign, Bool.eq_iff_iff, isNaN_value, isNoNumber, decide_eq_true_iff]
  unfold unsigned? at hreal
  dsimp only at hreal
  split at hreal
  next hname =>
    cases hreal
    exact iff_of_true rfl hname
  next hname =>
    refine iff_of_false ?_ hname
    rintro rfl
    split at hreal
    · cases hreal
    · obtain ⟨ds, scale, hdigits⟩ := exists_digits_of_decimal? hreal
      cases hdigits

private theorem mem_splitSign {c : Char} (h : c ∈ cs) :
    c = '-' ∨ c = '+' ∨ c ∈ (splitSign cs).2 := by
  unfold splitSign
  split
  · obtain rfl | h := List.mem_cons.mp h
    · exact .inl rfl
    · exact .inr (.inr h)
  · obtain rfl | h := List.mem_cons.mp h
    · exact .inr (.inl rfl)
    · exact .inr (.inr h)
  · exact .inr (.inr h)

private theorem toLower_of_isAsciiDigit {c : Char} (h : Text.isAsciiDigit c = true) :
    c.toLower = c := by
  simp only [Text.isAsciiDigit, Bool.and_eq_true, decide_eq_true_eq] at h
  unfold Char.toLower
  rw [dif_neg]
  rintro ⟨hA, -⟩
  exact absurd (UInt32.le_trans hA h.2) (by decide)

/-- A name has neither digits nor underscores. -/
theorem isNoNumber_eq_false {c : Char} (hc : Text.isAsciiDigit c = true ∨ c = '_') (hmem : c ∈ cs) :
    isNoNumber cs = false := by
  rw [isNoNumber, decide_eq_false_iff_not]
  intro hname
  have hmap : (splitSign cs).2.map Char.toLower = ['n', 'a', 'n'] := by
    rw [← String.toList_ofList (l := (splitSign cs).2.map Char.toLower), hname]
    rfl
  have hlower : c.toLower = c := by
    obtain hdigit | rfl := hc
    · exact toLower_of_isAsciiDigit hdigit
    · rfl
  obtain rfl | rfl | hmem := mem_splitSign hmem
  · simp [Text.isAsciiDigit] at hc
  · simp [Text.isAsciiDigit] at hc
  · have hletter := List.mem_map_of_mem (f := Char.toLower) hmem
    rw [hmap, hlower] at hletter
    simp only [List.mem_cons, List.not_mem_nil, or_false] at hletter
    obtain rfl | rfl | rfl := hletter <;> simp [Text.isAsciiDigit] at hc

/-- Wherever there is an underscore that is allowed there is a digit. -/
theorem exists_digit_of_underscore {before : Bool} (h : underscoresInDigits before cs = true)
    (hmem : '_' ∈ cs) : ∃ c ∈ cs, Text.isAsciiDigit c = true := by
  induction cs generalizing before with
  | nil => cases hmem
  | cons c rest ih =>
    by_cases hc : c = '_'
    · subst hc
      simp only [underscoresInDigits, Bool.and_eq_true] at h
      obtain ⟨⟨-, hhead⟩, -⟩ := h
      obtain ⟨d, hd, hdigit⟩ := (Option.any_eq_true ..).mp hhead
      exact ⟨d, List.mem_cons_of_mem _ (List.mem_of_head? hd), hdigit⟩
    · rw [underscoresInDigits] at h
      · obtain ⟨d, hd, hdigit⟩ := ih h ((List.mem_cons.mp hmem).resolve_left (Ne.symm hc))
        exact ⟨d, List.mem_cons_of_mem c hd, hdigit⟩
      · exact hc

theorem isNaN_readReal? {x : Float} (h : readReal? cs = some x) :
    x.isNaN = isNoNumber (Text.trim Text.isBlank (toAscii cs)) := by
  unfold readReal? at h
  dsimp only at h
  split at h
  next hunderscores =>
    rw [isNaN_realOfAscii? h]
    by_cases hmem : '_' ∈ Text.trim Text.isBlank (toAscii cs)
    · obtain ⟨c, hc, hdigit⟩ := exists_digit_of_underscore hunderscores hmem
      have hkept : c ∈ (Text.trim Text.isBlank (toAscii cs)).filter (· ≠ '_') := by
        refine List.mem_filter.mpr ⟨hc, ?_⟩
        simp only [decide_eq_true_eq]
        rintro rfl
        cases hdigit
      rw [isNoNumber_eq_false (.inl hdigit) hkept, isNoNumber_eq_false (.inr rfl) hmem]
    · rw [List.filter_eq_self.mpr]
      intro c hc
      simp only [decide_eq_true_eq]
      rintro rfl
      exact hmem hc
  · cases h

end Numeral

end SendMeter
