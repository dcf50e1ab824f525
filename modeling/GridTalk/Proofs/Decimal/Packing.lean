import GridTalk.Proofs.Decimal.Rounding
import Mathlib

/-!
# The bits of a float

A finite float is told by its sign, its mantissa and its exponent, and these are the bits of it.

* `signOfBits`: the sign, beside `partsOfBits`.
* `floatOf`: the float that is packed.
* `unpack_pack`: nothing is lost when a float is packed.
* `eq_floatOf`: a finite float is packed from what its bits say.

The lemmas of the library on `Float.Model.UnpackedFloat` are in none of the parts of Mathlib, so
this module imports all of it.
-/

namespace GridTalk

open Float.Model Float.Model.UnpackedFloat

/-- The sign of the float with these bits. -/
def signOfBits (bits : UInt64) : Sign := if bits >>> 63 == 1 then .negative else .positive

/-! ### The fields -/

section Fields

variable (b : BitVec Format.binary64.numBits) (bits : UInt64)

theorem toNat_unpackMantissa : (unpackMantissa b).toNat = b.toNat % 2 ^ 52 := by
  simp [unpackMantissa, BitVec.extractLsb, BitVec.extractLsb'_toNat]

theorem toNat_unpackExponent : (unpackExponent b).toNat = b.toNat / 2 ^ 52 % 2 ^ 11 := by
  simp [unpackExponent, BitVec.extractLsb, BitVec.extractLsb'_toNat, Nat.shiftRight_eq_div_pow]

theorem toNat_unpackSign : (unpackSign b).toNat = b.toNat / 2 ^ 63 := by
  have hlt : b.toNat < 2 ^ 64 := b.isLt
  simp [unpackSign, BitVec.extractLsb, BitVec.extractLsb'_toNat, Nat.shiftRight_eq_div_pow]
  omega

theorem exponentField_eq :
    ((bits >>> 52) &&& 0x7FF).toNat = (@unpackExponent .binary64 bits.toBitVec).toNat := by
  have hmask (n : Nat) : n &&& 0x7FF = n % 2 ^ 11 := Nat.and_two_pow_sub_one_eq_mod n 11
  rw [toNat_unpackExponent, UInt64.toNat_and, UInt64.toNat_shiftRight]
  exact (hmask _).trans (by rw [Nat.shiftRight_eq_div_pow]; rfl)

theorem mantissaField_eq :
    (bits &&& 0xFFFFFFFFFFFFF).toNat = (@unpackMantissa .binary64 bits.toBitVec).toNat := by
  have hmask (n : Nat) : n &&& 0xFFFFFFFFFFFFF = n % 2 ^ 52 := Nat.and_two_pow_sub_one_eq_mod n 52
  rw [toNat_unpackMantissa, UInt64.toNat_and]
  exact hmask _

theorem signField_eq :
    Sign.ofBitVec (@unpackSign .binary64 bits.toBitVec) = signOfBits bits := by
  have htop : (bits >>> 63).toNat = (@unpackSign .binary64 bits.toBitVec).toNat := by
    rw [toNat_unpackSign, UInt64.toNat_shiftRight, Nat.shiftRight_eq_div_pow]
    rfl
  have hiff : @unpackSign .binary64 bits.toBitVec = 0#1 ↔ ¬(bits >>> 63 == 1) = true := by
    have hlt := (@unpackSign .binary64 bits.toBitVec).isLt
    rw [beq_iff_eq, ← UInt64.toNat_inj, htop, ← BitVec.toNat_inj]
    simp
    omega
  by_cases hbit : (bits >>> 63 == 1) = true
  · rw [Sign.ofBitVec, if_neg (hiff.not.2 (not_not.2 hbit)), signOfBits, if_pos hbit]
  · rw [Sign.ofBitVec, if_pos (hiff.2 hbit), signOfBits, if_neg hbit]

end Fields

/-! ### Packing -/

section Packing

variable {s : Sign} {ev : BitVec 11} {mv : BitVec 52} {m : Nat} {e : Int}

/-- Without an exponent field the mantissa is as it stands. -/
theorem unpack_least (hpos : 0 < mv.toNat) :
    UnpackedFloat.unpack .binary64 (packComponents .binary64 s 0 mv)
      = .finite s mv.toNat (-1074) hpos := by
  have hmv : mv ≠ 0#52 := by
    rintro rfl
    simp at hpos
  simp [UnpackedFloat.unpack, hmv, Format.exponentBias]

/-- With an exponent field the mantissa has a first digit that is not written. -/
theorem unpack_full (hzero : ev ≠ 0#11) (hinf : ev ≠ -1#11) :
    UnpackedFloat.unpack .binary64 (packComponents .binary64 s ev mv)
      = .finite s (2 ^ 52 + mv.toNat) (ev.toNat - 1075) (by positivity) := by
  have happend : (1#1 ++ mv).toNat = 2 ^ 52 + mv.toNat := by
    rw [BitVec.toNat_append, ← Nat.shiftLeft_add_eq_or_of_lt mv.isLt]
    simp
  simp only [UnpackedFloat.unpack, unpackMantissa_packComponents, unpackExponent_packComponents,
    unpackSign_packComponents, Sign.ofBitVec_toBitVec, if_neg hinf, if_neg hzero, happend]
  rfl

/-- The greatest exponent field is not that of a finite float. -/
theorem ne_of_isFinite_unpack
    (h : (UnpackedFloat.unpack .binary64 (packComponents .binary64 s ev mv)).isFinite = true) :
    ev ≠ -1#11 := by
  rintro rfl
  by_cases hzero : mv = 0#52 <;> simp [UnpackedFloat.unpack, hzero, UnpackedFloat.isFinite] at h

theorem pack_of_canonical (hc : Canonical m e) :
    UnpackedFloat.pack .binary64 (.finite s m e hc.pos)
      = packComponents .binary64 s (if m < 2 ^ 52 then 0 else .ofNat 11 (e + 1075).toNat)
        (.ofNat 52 m) := by
  have hleast := hc.least_le
  have hgreatest := hc.le_greatest
  have hlt : m.log2 < 53 := (Nat.log2_lt hc.pos.ne').2 hc.lt
  have hbias : e + Format.binary64.exponentBias + Format.binary64.mantissaBitsWithoutImplicit
      = e + 1075 := by
    simp [Format.exponentBias]
    omega
  have hrange : ¬2 ^ 11 ≤ (e + 1075).toNat + 1 := by omega
  simp only [UnpackedFloat.pack, hbias, if_neg hrange]
  by_cases hsmall : m < 2 ^ 52
  · have hlog : m.log2 < 52 := (Nat.log2_lt hc.pos.ne').2 hsmall
    rw [if_neg (by simp [Format.mantissaBits]; omega), if_pos hsmall]
    rfl
  · have hlog : 52 ≤ m.log2 := (Nat.le_log2 hc.pos.ne').2 (by omega)
    rw [if_pos (by simp [Format.mantissaBits]; omega), if_neg hsmall]

/-- **Nothing is lost** when a float is packed. -/
theorem unpack_pack (hc : Canonical m e) :
    UnpackedFloat.unpack .binary64 (UnpackedFloat.pack .binary64 (.finite s m e hc.pos))
      = .finite s m e hc.pos := by
  have hleast := hc.least_le
  have hgreatest := hc.le_greatest
  have hlt := hc.lt
  have hpos := hc.pos
  rw [pack_of_canonical hc]
  by_cases hsmall : m < 2 ^ 52
  · obtain rfl : e = -1074 := hc.full.resolve_right (by omega)
    have hmv : (BitVec.ofNat 52 m).toNat = m := by
      rw [BitVec.toNat_ofNat, Nat.mod_eq_of_lt hsmall]
    rw [if_pos hsmall, unpack_least (by omega)]
    simp only [hmv]
  · have hmv : (BitVec.ofNat 52 m).toNat = m - 2 ^ 52 := by
      rw [BitVec.toNat_ofNat]
      omega
    have hev : (BitVec.ofNat 11 (e + 1075).toNat).toNat = (e + 1075).toNat := by
      rw [BitVec.toNat_ofNat]
      omega
    have hzero : BitVec.ofNat 11 (e + 1075).toNat ≠ 0#11 := by
      rw [ne_eq, ← BitVec.toNat_inj, hev]
      simp
      omega
    have hinf : BitVec.ofNat 11 (e + 1075).toNat ≠ -1#11 := by
      rw [ne_eq, ← BitVec.toNat_inj, hev]
      simp
      omega
    rw [if_neg hsmall, unpack_full hzero hinf]
    congr 1 <;> omega

end Packing

/-! ### Floats -/

section Floats

variable {x : Float} {f g : UnpackedFloat} {s : Sign} {m : Nat} {e : Int}

/-- The float that is packed. -/
def floatOf (f : UnpackedFloat) : Float := .ofModel (.pack f)

/-- Is nothing lost when the float is packed? -/
def Packs (f : UnpackedFloat) : Prop :=
  UnpackedFloat.unpack .binary64 (UnpackedFloat.pack .binary64 f) = f

theorem Canonical.packs (hc : Canonical m e) (s : Sign) : Packs (.finite s m e hc.pos) :=
  unpack_pack hc

theorem neg_floatOf (hf : Packs f) : -floatOf f = floatOf f.neg := by
  show floatOf (UnpackedFloat.neg (UnpackedFloat.unpack _ (UnpackedFloat.pack _ f))) = _
  rw [hf]

theorem floatOf_mul (hf : Packs f) (hg : Packs g) :
    floatOf f * floatOf g = floatOf (UnpackedFloat.mul .binary64 f g) := by
  show floatOf (UnpackedFloat.mul .binary64 (UnpackedFloat.unpack _ (UnpackedFloat.pack _ f))
    (UnpackedFloat.unpack _ (UnpackedFloat.pack _ g))) = _
  rw [hf, hg]

theorem floatOf_div (hf : Packs f) (hg : Packs g) :
    floatOf f / floatOf g = floatOf (UnpackedFloat.div .binary64 f g) := by
  show floatOf (UnpackedFloat.div .binary64 (UnpackedFloat.unpack _ (UnpackedFloat.pack _ f))
    (UnpackedFloat.unpack _ (UnpackedFloat.pack _ g))) = _
  rw [hf, hg]

/-- A float is packed from what it unpacks to. -/
theorem floatOf_unpack (x : Float) :
    floatOf (UnpackedFloat.unpack .binary64 x.toBits.toBitVec) = x :=
  x.ofBits_toBits

/-- **A finite float** is a zero, or is packed from the mantissa and the exponent that its bits
say. -/
theorem eq_floatOf (hfinite : x.isFinite = true) (hparts : partsOfBits x.toBits = (m, e)) :
    (m = 0 ∧ x = floatOf (.zero (signOfBits x.toBits))) ∨
      ∃ hc : Canonical m e, x = floatOf (.finite (signOfBits x.toBits) m e hc.pos) := by
  have hbits := @packComponents_unpackSign_unpackExponent_unpackMantissa .binary64
    x.toBits.toBitVec
  have hfinite' : (UnpackedFloat.unpack .binary64 x.toBits.toBitVec).isFinite = true := hfinite
  have hfloat := floatOf_unpack x
  rw [partsOfBits, exponentField_eq, mantissaField_eq] at hparts
  rw [signField_eq] at hbits
  revert hparts hbits
  generalize @unpackExponent .binary64 x.toBits.toBitVec = ev
  generalize @unpackMantissa .binary64 x.toBits.toBitVec = mv
  generalize signOfBits x.toBits = s
  intro hparts hbits
  rw [← hbits] at hfinite' hfloat
  have hinf := ne_of_isFinite_unpack hfinite'
  have hevlt : ev.toNat < 2 ^ 11 := ev.isLt
  have hmvlt : mv.toNat < 2 ^ 52 := mv.isLt
  dsimp only at hparts
  by_cases hzero : ev.toNat = 0
  · rw [if_pos hzero, Prod.mk.injEq] at hparts
    obtain ⟨rfl, rfl⟩ := hparts
    obtain rfl : ev = 0#11 := BitVec.eq_of_toNat_eq hzero
    by_cases hm : mv.toNat = 0
    · obtain rfl : mv = 0#52 := BitVec.eq_of_toNat_eq hm
      exact .inl ⟨rfl, hfloat.symm.trans (congrArg floatOf unpack_packedZero)⟩
    · have hc : Canonical mv.toNat (-1074) := ⟨by omega, by omega, by omega, by omega, .inl rfl⟩
      exact .inr ⟨hc, hfloat.symm.trans (congrArg floatOf (unpack_least hc.pos))⟩
  · rw [if_neg hzero, Prod.mk.injEq] at hparts
    obtain ⟨rfl, rfl⟩ := hparts
    have hne : ev.toNat ≠ 2047 := fun h => hinf (BitVec.eq_of_toNat_eq h)
    have hne' : ev ≠ 0#11 := fun h => hzero (congrArg BitVec.toNat h)
    have hc : Canonical (1 <<< 52 + mv.toNat) (ev.toNat - 1075) :=
      ⟨by omega, by omega, by omega, by omega, .inr (by omega)⟩
    exact .inr ⟨hc, hfloat.symm.trans (congrArg floatOf (unpack_full hne' hinf))⟩

end Floats

end GridTalk
