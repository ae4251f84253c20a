import Mathlib

open Float.Model Float.Model.UnpackedFloat

namespace SendMeter.Binary64

/-- A mantissa and an exponent in standard form. -/
structure Standard (m : Nat) (e : Int) : Prop where
  lt : m < 2 ^ 53
  least_le : -1074 ≤ e
  full : 2 ^ 52 ≤ m ∨ e = -1074

/-- Standard form of a float that has been taken apart. -/
def IsStandard : UnpackedFloat → Prop
  | .finite _ m e _ => Standard m e
  | _ => True

/-- A number with an exponent that is too large is taken for infinity. -/
def overflow : UnpackedFloat → UnpackedFloat
  | .finite sign m e h => if 971 < e then .infinity sign else .finite sign m e h
  | x => x

theorem unpackSign_packComponents {format : Format} (sign : Sign)
    (exponent : BitVec format.exponentBits)
    (mantissa : BitVec format.mantissaBitsWithoutImplicit) :
    unpackSign (packComponents format sign exponent mantissa) = sign.toBitVec := by
  ext i hi
  have hzero : i = 0 := by omega
  subst i
  simp [unpackSign, packComponents, BitVec.getLsbD_append, BitVec.getElem_append]

theorem ofBitVec_toBitVec (sign : Sign) : Sign.ofBitVec sign.toBitVec = sign := by
  cases sign <;> rfl

/-- A mantissa is written without its leading bit. -/
theorem toNat_append_leading (mantissa : BitVec 52) :
    (1#1 ++ mantissa).toNat = 2 ^ 52 + mantissa.toNat := by
  rw [BitVec.toNat_append, ← Nat.shiftLeft_add_eq_or_of_lt mantissa.isLt, Nat.shiftLeft_eq,
    BitVec.toNat_ofNat]
  omega

/-- What is read from a float is in standard form, with an exponent that is not too large. -/
theorem standard_of_unpack_eq {x : Float.Model} {sign : Sign} {m : Nat} {e : Int} {h : 0 < m}
    (hx : x.unpack = .finite sign m e h) : Standard m e ∧ e ≤ 971 := by
  have hmantissa : (@unpackMantissa .binary64 x.toBits.toBitVec).toNat < 2 ^ 52 :=
    (@unpackMantissa .binary64 x.toBits.toBitVec).isLt
  have hexponent : (@unpackExponent .binary64 x.toBits.toBitVec).toNat < 2048 :=
    (@unpackExponent .binary64 x.toBits.toBitVec).isLt
  have hbias : ((Format.binary64.exponentBias : Int) +
      (Format.binary64.mantissaBitsWithoutImplicit : Nat)) = 1075 := rfl
  unfold Float.Model.unpack UnpackedFloat.unpack at hx
  dsimp only at hx
  rw [hbias] at hx
  split at hx
  · split at hx
    · cases hx
    · cases hx
  next htop =>
    split at hx
    next hzero =>
      split at hx
      · cases hx
      · cases hx
        rw [hzero]
        exact ⟨⟨by omega, by decide, .inr (by decide)⟩, by decide⟩
    next hzero =>
      have hlow : (@unpackExponent .binary64 x.toBits.toBitVec).toNat ≠ 0 := fun h =>
        hzero (BitVec.eq_of_toNat_eq h)
      have hhigh : (@unpackExponent .binary64 x.toBits.toBitVec).toNat ≠ 2047 := fun h =>
        htop (BitVec.eq_of_toNat_eq h)
      have hfull := toNat_append_leading (@unpackMantissa .binary64 x.toBits.toBitVec)
      cases hx
      exact ⟨⟨by omega, by omega, .inl (by omega)⟩, by omega⟩

theorem isStandard_unpack (x : Float.Model) : IsStandard x.unpack := by
  cases hx : x.unpack with
  | finite sign m e h => exact (standard_of_unpack_eq hx).1
  | _ => trivial

theorem unpack_packComponents_top (sign : Sign) :
    UnpackedFloat.unpack .binary64 (packedInfinity .binary64 sign) = .infinity sign := by
  cases sign <;> rfl

/-- A full mantissa is read back with its leading bit, and the exponent without its bias. -/
theorem unpack_packComponents_full {m biased : Nat} (sign : Sign) (hle : 2 ^ 52 ≤ m)
    (hlt : m < 2 ^ 53) (hpos : 0 < biased) (hbiased : biased < 2047) :
    UnpackedFloat.unpack .binary64
        (packComponents .binary64 sign (BitVec.ofNat 11 biased) (BitVec.ofNat 52 m)) =
      .finite sign m (biased - 1075) (by omega) := by
  have hexponent : (BitVec.ofNat 11 biased).toNat = biased := by
    rw [BitVec.toNat_ofNat]
    omega
  have hnot_top : BitVec.ofNat 11 biased ≠ -1#11 := by
    intro h
    have hnat : (BitVec.ofNat 11 biased).toNat = 2047 := congrArg BitVec.toNat h
    omega
  have hnot_zero : BitVec.ofNat 11 biased ≠ 0#11 := by
    intro h
    have hnat : (BitVec.ofNat 11 biased).toNat = 0 := congrArg BitVec.toNat h
    omega
  have hmantissa : (1#1 ++ BitVec.ofNat 52 m).toNat = m := by
    rw [toNat_append_leading, BitVec.toNat_ofNat]
    omega
  simp only [UnpackedFloat.unpack, unpackExponent_packComponents, unpackMantissa_packComponents,
    unpackSign_packComponents, ofBitVec_toBitVec]
  rw [if_neg hnot_top, if_neg hnot_zero, UnpackedFloat.finite.injEq]
  refine ⟨rfl, hmantissa, ?_⟩
  rw [hexponent]
  rfl

/-- A mantissa that is not full is read back as it is, with the least exponent. -/
theorem unpack_packComponents_small {m : Nat} (sign : Sign) (hpos : 0 < m) (hlt : m < 2 ^ 52) :
    UnpackedFloat.unpack .binary64 (packComponents .binary64 sign 0#11 (BitVec.ofNat 52 m)) =
      .finite sign m (-1074) hpos := by
  have hmantissa : (BitVec.ofNat 52 m).toNat = m := by
    rw [BitVec.toNat_ofNat]
    omega
  have hnot_zero : BitVec.ofNat 52 m ≠ 0#52 := by
    intro h
    have hnat : (BitVec.ofNat 52 m).toNat = 0 := congrArg BitVec.toNat h
    omega
  have hnot_top : 0#11 ≠ -1#11 := by decide
  simp only [UnpackedFloat.unpack, unpackExponent_packComponents, unpackMantissa_packComponents,
    unpackSign_packComponents, ofBitVec_toBitVec]
  rw [if_neg hnot_top, if_pos trivial, dif_neg hnot_zero, UnpackedFloat.finite.injEq]
  exact ⟨rfl, hmantissa, rfl⟩

/-- A number in standard form is read back as it was written, unless it is too large. -/
theorem unpack_pack_finite {m : Nat} {e : Int} (sign : Sign) (h : 0 < m) (hm : Standard m e) :
    (pack (.finite sign m e h)).unpack = overflow (.finite sign m e h) := by
  obtain ⟨hlt, hleast, hfull⟩ := hm
  obtain ⟨biased, hbiased⟩ : ∃ biased : Nat, (biased : Int) = e + 1075 :=
    ⟨(e + 1075).toNat, Int.toNat_of_nonneg (by omega)⟩
  have hexponent : (e + Format.binary64.exponentBias +
      Format.binary64.mantissaBitsWithoutImplicit).toNat = biased := by
    have hbias : Format.binary64.exponentBias = 1023 := rfl
    have hwidth : Format.binary64.mantissaBitsWithoutImplicit = 52 := rfl
    rw [hbias, hwidth]
    omega
  have hlog : m.log2 + 1 = Format.binary64.mantissaBits ↔ 2 ^ 52 ≤ m := by
    have hbits : Format.binary64.mantissaBits = 53 := rfl
    have hle := Nat.log2_lt (by omega : m ≠ 0) (k := 53)
    have hle' := Nat.log2_lt (by omega : m ≠ 0) (k := 52)
    omega
  have htop : 2 ^ Format.binary64.exponentBits ≤ biased + 1 ↔ 971 < e := by
    have hbits : 2 ^ Format.binary64.exponentBits = 2048 := rfl
    omega
  simp only [Float.Model.unpack, Float.Model.pack, UnpackedFloat.pack, hexponent, hlog, htop,
    overflow]
  split
  · exact unpack_packComponents_top sign
  · split
    next hle =>
      have hread := unpack_packComponents_full sign hle hlt (by omega : 0 < biased) (by omega)
      rw [show (biased : Int) - 1075 = e by omega] at hread
      exact hread
    next hle =>
      obtain rfl : e = -1074 := hfull.resolve_left hle
      exact unpack_packComponents_small sign h (by omega)

/-- What is in standard form is read back as it was written, unless it is too large. -/
theorem unpack_pack {x : UnpackedFloat} (hx : IsStandard x) : (pack x).unpack = overflow x := by
  cases x with
  | finite sign m e h => exact unpack_pack_finite sign h hx
  | infinity sign => exact unpack_packComponents_top sign
  | zero sign => cases sign <;> rfl
  | notANumber => rfl

end SendMeter.Binary64
