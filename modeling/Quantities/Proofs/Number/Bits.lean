import Quantities.Proofs.Number.One

/-!
# The bits of a double

A double is read from its bits in two ways, by division and as the model of doubles unpacks them,
and is written to them in two ways. Both ways agree on the sign, the mantissa and the exponent.

* `toNat_unpackExponent`, `toNat_unpackMantissa`, `ofBitVec_unpackSign`: the fields as quotients and
  remainders;
* `ofFloat_of_finite`: the sign, the mantissa and the exponent that a number is read as;
* `unpack_ofNat`, `toFloat_eq`: what the nearest double to a binary number is, for a mantissa that
  is rounded to full width.
-/

namespace Quantities.Number

open Float.Model Float.Model.UnpackedFloat

variable {x : Float} {b : BitVec 64} {s : Sign} {m k : Nat} {e t : Int}

/-! ## The fields -/

theorem toNat_unpackExponent (b : BitVec 64) :
    (@unpackExponent .binary64 b).toNat = b.toNat / 2 ^ 52 % 2 ^ 11 := by
  unfold unpackExponent
  rw [BitVec.toNat_cast, BitVec.extractLsb_toNat, Nat.shiftRight_eq_div_pow]
  rfl

theorem toNat_unpackMantissa (b : BitVec 64) :
    (@unpackMantissa .binary64 b).toNat = b.toNat % 2 ^ 52 := by
  unfold unpackMantissa
  rw [BitVec.toNat_cast, BitVec.extractLsb_toNat, Nat.shiftRight_zero]
  rfl

theorem toNat_unpackSign (b : BitVec 64) : (@unpackSign .binary64 b).toNat = b.toNat / 2 ^ 63 := by
  unfold unpackSign
  rw [BitVec.toNat_cast, BitVec.extractLsb_toNat, Nat.shiftRight_eq_div_pow]
  exact Nat.mod_eq_of_lt (Nat.div_lt_of_lt_mul b.isLt)

theorem ofBitVec_unpackSign (b : BitVec 64) :
    Sign.ofBitVec (@unpackSign .binary64 b) =
      if b.toNat / 2 ^ 63 = 1 then .negative else .positive := by
  have hsign : @unpackSign .binary64 b = 0#1 ↔ ¬ b.toNat / 2 ^ 63 = 1 := by
    rw [← BitVec.toNat_inj, toNat_unpackSign, BitVec.toNat_ofNat]
    have := b.isLt
    omega
  unfold Sign.ofBitVec
  simp only [hsign, ite_not]

/-! ## Reading -/

theorem negative_ofFloat (x : Float) : (Binary.ofFloat x).negative = true ↔
    Sign.ofBitVec (@unpackSign .binary64 x.toModel.toBits.toBitVec) = .negative := by
  have hread : (Binary.ofFloat x).negative = true ↔
      x.toModel.toBits.toBitVec.toNat / 2 ^ 63 = 1 := beq_iff_eq
  rw [hread, ofBitVec_unpackSign]
  split
  · simp_all
  · simp_all

theorem mantissa_ofFloat (x : Float) : (Binary.ofFloat x).mantissa =
    if (@unpackExponent .binary64 x.toModel.toBits.toBitVec).toNat = 0 then
      (@unpackMantissa .binary64 x.toModel.toBits.toBitVec).toNat
    else 2 ^ 52 + (@unpackMantissa .binary64 x.toModel.toBits.toBitVec).toNat := by
  rw [toNat_unpackExponent, toNat_unpackMantissa]
  rfl

theorem exponent_ofFloat (x : Float) : (Binary.ofFloat x).exponent =
    if (@unpackExponent .binary64 x.toModel.toBits.toBitVec).toNat = 0 then -1074
    else ((@unpackExponent .binary64 x.toModel.toBits.toBitVec).toNat : Int) - 1075 := by
  rw [toNat_unpackExponent]
  rfl

theorem ofFloat_of_zero (h : x.toModel.unpack = .zero s) : (Binary.ofFloat x).mantissa = 0 := by
  rw [mantissa_ofFloat]
  unfold Float.Model.unpack UnpackedFloat.unpack at h
  simp only at h
  split at h
  · split at h <;> exact nomatch h
  split at h
  · rename_i he
    split at h
    · rename_i hzero
      rw [he, hzero]
      rfl
    · exact nomatch h
  · exact nomatch h

/-- **What a number is read as.** -/
theorem ofFloat_of_finite {hm : 0 < m} (h : x.toModel.unpack = .finite s m e hm) :
    ((Binary.ofFloat x).negative = true ↔ s = .negative) ∧ (Binary.ofFloat x).mantissa = m ∧
      (Binary.ofFloat x).exponent = e := by
  rw [negative_ofFloat, mantissa_ofFloat, exponent_ofFloat]
  unfold Float.Model.unpack UnpackedFloat.unpack at h
  simp only at h
  split at h
  · split at h <;> exact nomatch h
  split at h
  · rename_i he
    split at h
    · exact nomatch h
    · obtain ⟨rfl, rfl, rfl⟩ := UnpackedFloat.finite.inj h
      rw [he, exponentBias_binary64]
      exact ⟨Iff.rfl, rfl, rfl⟩
  · rename_i he
    obtain ⟨rfl, rfl, rfl⟩ := UnpackedFloat.finite.inj h
    have hpos : (@unpackExponent .binary64 x.toModel.toBits.toBitVec).toNat ≠ 0 := fun h0 =>
      he (BitVec.eq_of_toNat_eq h0)
    rw [if_neg hpos, if_neg hpos, toNat_one_append, exponentBias_binary64]
    exact ⟨Iff.rfl, rfl, by omega⟩

/-! ## Writing -/

/-- A number whose mantissa has full width, written as its bits. -/
theorem unpack_ofNat (hk : Canonical k t) (hfull : 2 ^ 52 ≤ k) :
    UnpackedFloat.unpack .binary64 (UInt64.ofNat ((t + 1074).toNat * 2 ^ 52 + k)).toBitVec =
      .finite .positive k t hk.pos := by
  obtain ⟨⟨-, hlt, hmin⟩, hmax, -⟩ := hk
  obtain ⟨n, hn⟩ : ∃ n, n = (t + 1074).toNat * 2 ^ 52 + k := ⟨_, rfl⟩
  have hbits : (UInt64.ofNat n).toBitVec.toNat = n := by
    show n % 2 ^ 64 = n
    omega
  rw [← hn]
  have hexponent := toNat_unpackExponent (UInt64.ofNat n).toBitVec
  have hmantissa := toNat_unpackMantissa (UInt64.ofNat n).toBitVec
  have hsign := ofBitVec_unpackSign (UInt64.ofNat n).toBitVec
  rw [hbits] at hexponent hmantissa hsign
  rw [if_neg (by omega)] at hsign
  have hfield : n / 2 ^ 52 % 2 ^ 11 = (t + 1075).toNat := by omega
  unfold UnpackedFloat.unpack
  simp only
  rw [if_neg, if_neg]
  · congr 1
    · rw [toNat_one_append, hmantissa]
      omega
    · rw [hexponent, hfield, exponentBias_binary64]
      omega
  · intro h
    have := congrArg BitVec.toNat h
    rw [hexponent, hfield, BitVec.toNat_zero] at this
    omega
  · intro h
    have := congrArg BitVec.toNat h
    rw [hexponent, hfield] at this
    have hall : (-1#11 : BitVec 11).toNat = 2047 := by decide
    rw [hall] at this
    omega

theorem infinityBits_eq : Binary.infinityBits = 2047 * 2 ^ 52 := rfl

theorem twoTo_52 : twoTo 52 = 2 ^ 52 := rfl

/-- The bits of a number that is rounded to a mantissa of full width. -/
theorem magnitudeBits_eq (hm : 0 < m) (hk : Canonical k t) (htop : e + m.log2 = t + 52)
    (he : e < t) (hround : nearestQuotient m (twoTo (t - e)) = k) :
    Binary.magnitudeBits m e = (t + 1074).toNat * 2 ^ 52 + k := by
  obtain ⟨⟨-, hlt, hmin⟩, hmax, -⟩ := hk
  have hexponent : max (e + m.log2 - 52) (-1074) = t := by omega
  have hrange : (t + 1074).toNat * 2 ^ 52 + k ≤ 2047 * 2 ^ 52 := by
    calc (t + 1074).toNat * 2 ^ 52 + k ≤ 2045 * 2 ^ 52 + 2 * 2 ^ 52 :=
          Nat.add_le_add (Nat.mul_le_mul_right _ (by omega)) hlt.le
      _ = 2047 * 2 ^ 52 := (Nat.add_mul 2045 2 _).symm
  unfold Binary.magnitudeBits
  rw [if_neg (by omega), if_neg (by omega)]
  simp only [hexponent]
  rw [if_neg (by omega), hround, infinityBits_eq, twoTo_52, Nat.min_eq_right hrange]

/-- **The nearest double to a number** that is rounded to a mantissa of full width. -/
theorem toFloat_eq (hm : 0 < m) (hk : Canonical k t) (hfull : 2 ^ 52 ≤ k)
    (htop : e + m.log2 = t + 52) (he : e < t) (hround : nearestQuotient m (twoTo (t - e)) = k) :
    Binary.toFloat ⟨false, m, e⟩ =
      Float.ofModel (Float.Model.pack (.finite .positive k t hk.pos)) := by
  have hread (n : Nat) : Float.ofBits (UInt64.ofNat n) = Float.ofModel (Float.Model.pack
      (UnpackedFloat.unpack .binary64 (UInt64.ofNat n).toBitVec)) := rfl
  have hwrite : Binary.toFloat ⟨false, m, e⟩ =
      Float.ofBits (UInt64.ofNat (Binary.magnitudeBits m e)) := rfl
  rw [hwrite, magnitudeBits_eq hm hk htop he hround, hread, unpack_ofNat hk hfull]

end Quantities.Number
