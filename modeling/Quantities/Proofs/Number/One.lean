import Quantities.Proofs.Number.Positive

/-!
# One times a double

One is the double with the least mantissa of full width. In the product with it the mantissa of the
other double is shifted to the left and back, so that nothing is rounded.

* `Canonical`: the mantissa of an unpacked double has full width, or its exponent is the least one.
* `targetExponent_unpack`: so rounding does not move it.
* `roundWithAccuracy_shifted`: rounding takes a shifted mantissa back.
* **`one_mul_float`**: one times a double is that double, whatever it is.
-/

namespace Quantities.Number

open Float.Model Float.Model.UnpackedFloat

theorem toNat_one_append (m : BitVec 52) : (1#1 ++ m).toNat = 2 ^ 52 + m.toNat := by
  rw [BitVec.toNat_append, ← Nat.shiftLeft_add_eq_or_of_lt m.isLt]
  rfl

/-- What the mantissa and the exponent of an unpacked double are like: the mantissa has full width,
or the exponent is the least one. -/
structure Canonical (m : Nat) (e : Int) : Prop extends Fits m e where
  max : e ≤ 971
  full : 2 ^ 52 ≤ m ∨ e = -1074

theorem canonical_unpack {b : BitVec 64} {s : Sign} {m : Nat} {e : Int} {hm : 0 < m}
    (h : UnpackedFloat.unpack .binary64 b = .finite s m e hm) : Canonical m e := by
  unfold UnpackedFloat.unpack at h
  simp only at h
  split at h
  · split at h <;> exact nomatch h
  rename_i hlast
  split at h
  · rename_i he
    split at h
    · exact nomatch h
    · obtain ⟨-, rfl, rfl⟩ := UnpackedFloat.finite.inj h
      have hlt : (@unpackMantissa .binary64 b).toNat < 2 ^ 52 := BitVec.isLt _
      rw [he, exponentBias_binary64, BitVec.toNat_zero]
      exact ⟨⟨hm, by omega, by decide⟩, by decide, Or.inr (by decide)⟩
  · rename_i he
    obtain ⟨-, rfl, rfl⟩ := UnpackedFloat.finite.inj h
    have hlt : (@unpackMantissa .binary64 b).toNat < 2 ^ 52 := BitVec.isLt _
    have hexponent : (@unpackExponent .binary64 b).toNat < 2 ^ 11 := BitVec.isLt _
    have hpos : (@unpackExponent .binary64 b).toNat ≠ 0 := fun h0 =>
      he (BitVec.eq_of_toNat_eq h0)
    have hmax : (@unpackExponent .binary64 b).toNat ≠ 2047 := fun h0 =>
      hlast (BitVec.eq_of_toNat_eq h0)
    rw [toNat_one_append, exponentBias_binary64]
    exact ⟨⟨by omega, by omega, by omega⟩, by omega, Or.inl (by omega)⟩

theorem Canonical.log2_lt {m : Nat} {e : Int} (h : Canonical m e) : m.log2 < 53 :=
  (Nat.log2_lt h.pos.ne').mpr h.lt

/-- Rounding leaves such a number where it is. -/
theorem Canonical.targetExponent {m : Nat} {e : Int} (h : Canonical m e) :
    Format.binary64.targetExponent (totalExponent m e) = e := by
  have hmantissa := h.log2_lt
  have hfull : 52 ≤ m.log2 ∨ e = -1074 := h.full.imp_left (Nat.le_log2 h.pos.ne').mpr
  have hle := h.min
  unfold Format.targetExponent totalExponent
  rw [minExponent_binary64, mantissaBits_binary64]
  omega

/-- An unpacked double is where rounding would put it. -/
theorem targetExponent_unpack {b : BitVec 64} {s : Sign} {m : Nat} {e : Int} {hm : 0 < m}
    (h : UnpackedFloat.unpack .binary64 b = .finite s m e hm) :
    Format.binary64.targetExponent (totalExponent m e) = e :=
  (canonical_unpack h).targetExponent

/-! ## Rounding -/

/-- A mantissa that is shifted to the left and back is what it was, and nothing is lost. -/
theorem shiftRight_shifted (k : Nat) : ∀ m : Nat,
    (⟨2 ^ k * m, false, false⟩ : ExtendedMantissa) >>> k = ⟨m, false, false⟩ := by
  induction k with
  | zero => exact fun m => congrArg (ExtendedMantissa.mk · false false) (Nat.one_mul m)
  | succ k ih =>
    intro m
    have hstep : ∀ em : ExtendedMantissa, em >>> (k + 1) = (em >>> k).shiftRightOne := fun _ => rfl
    rw [hstep, Nat.pow_succ, Nat.mul_assoc, ih]
    simp [ExtendedMantissa.shiftRightOne]

/-- Rounding takes a shifted mantissa back. -/
theorem shiftToTargetExponent_shifted {m k : Nat} {e : Int} (hm : 0 < m)
    (h : Format.binary64.targetExponent (totalExponent m e) = e) :
    shiftToTargetExponent .binary64 (2 ^ k * m) (-k + e) .exact = (⟨m, false, false⟩, e) := by
  have htotal : totalExponent (2 ^ k * m) (-k + e) = totalExponent m e := by
    unfold totalExponent
    rw [Nat.mul_comm, ← Nat.shiftLeft_eq, log2_shiftLeft hm]
    push_cast
    ring
  have hshift : (e - (-k + e)).toNat = k := by omega
  unfold shiftToTargetExponent shiftToExponent
  simp only [htotal, h, hshift]
  refine Prod.ext (shiftRight_shifted k m) ?_
  simp

theorem roundWithAccuracy_shifted {s : Sign} {m k : Nat} {e : Int} (hm : 0 < m)
    (h : Format.binary64.targetExponent (totalExponent m e) = e) :
    roundWithAccuracy .binary64 s (2 ^ k * m) (-k + e) .exact = .finite s m e hm := by
  have hstay : shiftToTargetExponent .binary64 m e .exact = (⟨m, false, false⟩, e) := by
    have h0 := shiftToTargetExponent_shifted (k := 0) hm h
    simpa using h0
  have hrounded : (⟨m, false, false⟩ : ExtendedMantissa).roundedMantissa = m := rfl
  unfold roundWithAccuracy
  rw [shiftToTargetExponent_shifted hm h]
  simp only [hrounded, hstay]
  rw [dif_neg hm.ne']

/-! ## The product -/

/-- A double that is unpacked and packed again is what it was. -/
theorem pack_unpack_model (y : Float.Model) : Float.Model.pack y.unpack = y := by
  obtain ⟨⟨b⟩, hvalid⟩ := y
  have hb : UnpackedFloat.pack .binary64 (UnpackedFloat.unpack .binary64 b) = b :=
    pack_unpack_of_valid hvalid
  unfold Float.Model.pack Float.Model.unpack
  simp only [hb]

/-- **One times a double is that double**, infinite and undefined ones included. -/
theorem one_mul_float (x : Float) : 1 * x = x := by
  have hone : (1 : Float).toModel.unpack = .finite .positive (2 ^ 52) (-52) (by decide) := rfl
  have hmul : UnpackedFloat.mul .binary64 (.finite .positive (2 ^ 52) (-52) (by decide))
      x.toModel.unpack = x.toModel.unpack := by
    cases hu : x.toModel.unpack with
    | notANumber => rfl
    | infinity s => cases s <;> rfl
    | zero s => cases s <;> rfl
    | finite s m e hm =>
      have hs : Sign.positive * s = s := by cases s <;> rfl
      show roundWithAccuracy .binary64 (Sign.positive * s) (2 ^ 52 * m) (-52 + e) .exact = _
      rw [hs]
      exact roundWithAccuracy_shifted (k := 52) hm (targetExponent_unpack hu)
  have hmodel : (1 : Float).toModel * x.toModel = x.toModel := by
    show Float.Model.pack (UnpackedFloat.mul .binary64 (1 : Float).toModel.unpack
      x.toModel.unpack) = x.toModel
    rw [hone, hmul]
    exact pack_unpack_model x.toModel
  show Float.ofModel ((1 : Float).toModel * x.toModel) = x
  rw [hmodel]

end Quantities.Number
