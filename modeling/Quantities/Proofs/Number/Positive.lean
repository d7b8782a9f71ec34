import Mathlib
import Quantities.Proofs.Outcome
import Quantities.Value.Reading

/-!
# Positive doubles

The double nearest to a positive integer is positive: it may be infinite, but it is never rounded to
zero. The proof follows the number through the bits of a double.

* `IsPositive`: an unpacked double above zero, infinite or not below the smallest double;
* `isPositive_unpack_pack`: packing a number in range keeps it positive;
* `isPositive_pack_roundWithAccuracy`: a number that is not below the smallest double is not rounded
  to zero;
* **`lt_ofInt`**: integers above zero are doubles above zero. So a value that counts as a positive,
  finite number is read as one (`Value.isFactor_number`).
-/

namespace Quantities.Number

open Float.Model Float.Model.UnpackedFloat

/-- A positive infinity, or a positive number that is not below the smallest double. -/
def IsPositive : UnpackedFloat → Prop
  | .infinity .positive => True
  | .finite .positive m e _ => -1074 ≤ e + m.log2
  | _ => False

/-- What the target exponent leaves of a mantissa and of an exponent, both in range. -/
structure Fits (m : Nat) (e : Int) : Prop where
  pos : 0 < m
  lt : m < 2 ^ 53
  min : -1074 ≤ e

/-! ## The format -/

theorem exponentBias_binary64 : Format.binary64.exponentBias = 1023 := by decide

theorem mantissaBits_binary64 : Format.binary64.mantissaBits = 53 := by decide

theorem minExponent_binary64 : Format.binary64.minExponent = -1074 := by decide

/-! ## Rounding -/

theorem mantissa_shiftRight (em : ExtendedMantissa) :
    ∀ k : Nat, (em >>> k).mantissa = em.mantissa / 2 ^ k
  | 0 => by simp [HShiftRight.hShiftRight, Nat.repeat]
  | k + 1 => by
    have h : (em >>> (k + 1)).mantissa = (em >>> k).mantissa / 2 := rfl
    rw [h, mantissa_shiftRight em k, Nat.div_div_eq_div_mul, Nat.pow_succ]

theorem le_roundedMantissa (em : ExtendedMantissa) : em.mantissa ≤ em.roundedMantissa := by
  obtain ⟨m, r, s⟩ := em
  cases r <;> cases s <;>
    simp [ExtendedMantissa.roundedMantissa, ExtendedMantissa.accuracy,
      Accuracy.roundToNearestEven]

/-- A number that is not below the smallest double keeps a mantissa. -/
theorem fits_shiftToTargetExponent {m : Nat} {e : Int} (hm : 0 < m) (h : -1074 ≤ e + m.log2) :
    Fits (shiftToTargetExponent .binary64 m e .exact).1.mantissa
      (shiftToTargetExponent .binary64 m e .exact).2 := by
  obtain ⟨k, hk⟩ : ∃ k, (Format.binary64.targetExponent (totalExponent m e) - e).toNat = k :=
    ⟨_, rfl⟩
  have hbounds : k ≤ m.log2 ∧ m.log2 ≤ 52 + k ∧ -1074 ≤ e + k := by
    unfold Format.targetExponent totalExponent at hk
    rw [minExponent_binary64, mantissaBits_binary64] at hk
    omega
  have hmantissa : (shiftToTargetExponent .binary64 m e .exact).1.mantissa = m / 2 ^ k := by
    unfold shiftToTargetExponent shiftToExponent
    simp only [mantissa_shiftRight, hk]
    rfl
  have hexponent : (shiftToTargetExponent .binary64 m e .exact).2 = e + k := by
    unfold shiftToTargetExponent shiftToExponent
    simp only [hk]
  rw [hmantissa, hexponent]
  refine ⟨Nat.div_pos ?_ (by positivity), ?_, hbounds.2.2⟩
  · calc 2 ^ k ≤ 2 ^ m.log2 := Nat.pow_le_pow_right (by decide) hbounds.1
      _ ≤ m := Nat.log2_self_le hm.ne'
  · rw [Nat.div_lt_iff_lt_mul (by positivity), ← Nat.pow_add]
    calc m < 2 ^ (m.log2 + 1) := Nat.lt_log2_self
      _ ≤ 2 ^ (53 + k) := Nat.pow_le_pow_right (by decide) (by omega)

/-- A number that is not below the smallest double is not rounded to zero. -/
theorem roundWithAccuracy_eq_finite {m : Nat} {e : Int} (hm : 0 < m) (h : -1074 ≤ e + m.log2) :
    ∃ m' e' hm', Fits m' e' ∧
      roundWithAccuracy .binary64 .positive m e .exact = .finite .positive m' e' hm' := by
  have first := fits_shiftToTargetExponent hm h
  unfold roundWithAccuracy
  generalize shiftToTargetExponent .binary64 m e .exact = shifted at first
  obtain ⟨em, e₁⟩ := shifted
  have hr : 0 < em.roundedMantissa := lt_of_lt_of_le first.pos (le_roundedMantissa em)
  have second := fits_shiftToTargetExponent hr (e := e₁) (by have := first.min; omega)
  simp only
  rw [dif_neg second.pos.ne']
  exact ⟨_, _, second.pos, second, rfl⟩

/-! ## Bits -/

/-- The number with given bits, of which those of the exponent and of the mantissa are not all
zero. -/
theorem isPositive_unpack_packComponents {e : BitVec 11} {m : BitVec 52}
    (h : e = 0#11 → m ≠ 0#52) (hm : e = -1#11 → m = 0#52) :
    IsPositive (UnpackedFloat.unpack .binary64 (packComponents .binary64 .positive e m)) := by
  unfold UnpackedFloat.unpack
  simp only [unpackExponent_packComponents, unpackMantissa_packComponents,
    unpackSign_packComponents]
  split
  · rename_i he
    rw [if_pos (hm he)]
    trivial
  · split
    · rename_i he
      rw [dif_neg (h he)]
      show -1074 ≤ _ + 1 + ((m.toNat.log2 : Nat) : Int)
      rw [he, exponentBias_binary64]
      have := Int.natCast_nonneg m.toNat.log2
      simp only [BitVec.toNat_zero]
      omega
    · rename_i he
      show -1074 ≤ _ + (((1#1 ++ m).toNat.log2 : Nat) : Int)
      rw [exponentBias_binary64]
      have he : e.toNat ≠ 0 := fun h0 => he (BitVec.eq_of_toNat_eq h0)
      omega

/-- A number in range stays positive when it is packed. -/
theorem isPositive_unpack_pack {m : Nat} {e : Int} (hm : 0 < m) (h : Fits m e) :
    IsPositive (UnpackedFloat.unpack .binary64
      (UnpackedFloat.pack .binary64 (.finite .positive m e hm))) := by
  unfold UnpackedFloat.pack
  simp only
  split
  · exact isPositive_unpack_packComponents (fun h => absurd h (by decide)) fun _ => rfl
  · rename_i hsmall
    rw [exponentBias_binary64] at hsmall
    have hmin := h.min
    split
    · refine isPositive_unpack_packComponents (fun h0 => ?_) fun h1 => ?_
      · have := congrArg BitVec.toNat h0
        rw [exponentBias_binary64, BitVec.toNat_ofNat, Nat.mod_eq_of_lt (by omega)] at this
        simp at this
        omega
      · have := congrArg BitVec.toNat h1
        rw [exponentBias_binary64, BitVec.toNat_ofNat, Nat.mod_eq_of_lt (by omega)] at this
        simp at this
        omega
    · rename_i hlog
      rw [mantissaBits_binary64] at hlog
      refine isPositive_unpack_packComponents (fun _ h0 => ?_) fun h1 => absurd h1 (by decide)
      have hlt : m.log2 < 53 := (Nat.log2_lt hm.ne').mpr h.lt
      have hm' : m < 2 ^ 52 := (Nat.log2_lt hm.ne').mp (by omega)
      have := congrArg BitVec.toNat h0
      rw [BitVec.toNat_ofNat, Nat.mod_eq_of_lt hm'] at this
      simp at this
      omega

/-! ## Integers -/

/-- Rounded and packed, a number that is not below the smallest double stays positive. -/
theorem isPositive_pack_roundWithAccuracy {m : Nat} {e : Int} (hm : 0 < m)
    (h : -1074 ≤ e + m.log2) :
    IsPositive (Float.Model.pack (roundWithAccuracy .binary64 .positive m e .exact)).unpack := by
  obtain ⟨m', e', hm', hfits, heq⟩ := roundWithAccuracy_eq_finite hm h
  rw [heq]
  exact isPositive_unpack_pack hm' hfits

theorem log2_shiftLeft {m : Nat} (hm : 0 < m) (k : Nat) : (m <<< k).log2 = m.log2 + k := by
  induction k with
  | zero => rfl
  | succ k ih =>
    have hpos : 0 < m <<< k := by
      rw [Nat.shiftLeft_eq]
      positivity
    rw [Nat.shiftLeft_succ, Nat.log2_two_mul hpos.ne', ih, Nat.add_assoc]

theorem isPositive_pack_mul {m₁ m₂ : Nat} {e₁ e₂ : Int} {hm₁ : 0 < m₁} {hm₂ : 0 < m₂}
    (h : -1074 ≤ e₁ + e₂ + ((m₁ * m₂).log2 : Int)) :
    IsPositive (Float.Model.pack (UnpackedFloat.mul .binary64 (.finite .positive m₁ e₁ hm₁)
      (.finite .positive m₂ e₂ hm₂))).unpack :=
  isPositive_pack_roundWithAccuracy (Nat.mul_pos hm₁ hm₂) h

/-- The product of a positive number and one. -/
theorem isPositive_mul_one {x : Float} (h : IsPositive x.toModel.unpack) :
    IsPositive (x * Float.ofBits 0x3FF0000000000000).toModel.unpack := by
  have hone : (Float.ofBits 0x3FF0000000000000).toModel.unpack =
      .finite .positive (2 ^ 52) (-52) (by decide) := rfl
  show IsPositive (Float.Model.pack (UnpackedFloat.mul .binary64 x.toModel.unpack
    (Float.ofBits 0x3FF0000000000000).toModel.unpack)).unpack
  rw [hone]
  generalize x.toModel.unpack = u at h
  match u, h with
  | .infinity .positive, _ =>
    exact isPositive_unpack_packComponents (fun h => absurd h (by decide)) fun _ => rfl
  | .finite .positive m e hm, h =>
    have h : -1074 ≤ e + m.log2 := h
    refine isPositive_pack_mul ?_
    rw [← Nat.shiftLeft_eq, log2_shiftLeft hm]
    push_cast
    omega

/-- A positive integer as the model of doubles rounds it, in units of a power of two that is not
below the smallest double. -/
theorem isPositive_pack_normalize {n : Nat} {e : Int} (hn : 0 < n) (he : -1074 ≤ e) :
    IsPositive (Float.Model.pack (UnpackedFloat.normalize .binary64 n e .positive)).unpack := by
  have hcompare : compare (n : Int) 0 = .gt := by
    rw [compare_gt_iff_gt]
    omega
  unfold UnpackedFloat.normalize UnpackedFloat.round decreaseExponent
  rw [hcompare]
  simp only [Int.toNat_natCast]
  refine isPositive_pack_roundWithAccuracy ?_ ?_
  · rw [Nat.shiftLeft_eq]
    positivity
  · rw [log2_shiftLeft hn]
    push_cast
    omega

/-- Small integers are converted and multiplied by one, large ones are rounded. -/
theorem isPositive_ofNat {n : Nat} (hn : 0 < n) : IsPositive (Float.ofNat n).toModel.unpack := by
  show IsPositive (Float.ofScientific n false 0).toModel.unpack
  unfold Float.ofScientific
  split
  · rename_i hsmall
    refine isPositive_mul_one ?_
    have hword : n.toUInt64.toNat = n := by
      simp
      omega
    show IsPositive
      (Float.Model.pack (UnpackedFloat.normalize .binary64 n.toUInt64.toNat 0 .positive)).unpack
    rw [hword]
    exact isPositive_pack_normalize hn (by decide)
  · show IsPositive (Float.Model.pack (UnpackedFloat.ofScientific .binary64 n 0)).unpack
    unfold UnpackedFloat.ofScientific
    have hlimit : ¬ (0 : Int) < -((2 : Int) ^ Format.binary64.exponentBits + n.log2) := by
      have : (0 : Int) < 2 ^ Format.binary64.exponentBits := by decide
      omega
    rw [dif_neg hn.ne', if_neg (by decide), if_neg hlimit, if_pos (by decide)]
    refine isPositive_pack_mul ?_
    rw [mantissaBits_binary64, Int.toNat_zero, Nat.pow_zero, Nat.mul_one, log2_shiftLeft hn]
    push_cast
    omega

theorem lt_of_isPositive {x : Float} (h : IsPositive x.toModel.unpack) : 0 < x := by
  have hlt : UnpackedFloat.lt (.zero .positive) x.toModel.unpack = true := by
    generalize x.toModel.unpack = u at h
    match u, h with
    | .infinity .positive, _ => rfl
    | .finite .positive _ _ _, _ => rfl
  exact decide_eq_true hlt

/-- **Integers above zero are doubles above zero.** -/
theorem lt_ofInt {n : Int} (hn : 0 < n) : 0 < Float.ofInt n := by
  obtain ⟨n, rfl⟩ := Int.eq_ofNat_of_zero_le hn.le
  exact lt_of_isPositive (isPositive_ofNat (by omega))

end Quantities.Number

namespace Quantities.Value

variable {v : Value} {x : Float}

theorem isFinite_number (h : v.isFinite = .ok true) (hx : v.number = .ok x) :
    x.isFinite = true := by
  unfold isFinite at h
  split at h
  · exact nomatch h
  · rw [hx] at h
    exact Except.ok.inj h

/-- What counts as more than zero is read as a number above zero. -/
theorem number_pos (h : v.isPositive = .ok true) (hx : v.number = .ok x) : 0 < x := by
  cases v with
  | truth b =>
    cases b with
    | false => exact nomatch h
    | true =>
      obtain rfl := Except.ok.inj hx
      decide +kernel
  | integer n =>
    have hn : 0 < n := of_decide_eq_true (Except.ok.inj h)
    have hx : Number.ofInteger n = .ok x := hx
    unfold Number.ofInteger at hx
    split at hx
    · exact nomatch hx
    · obtain rfl := Except.ok.inj hx
      exact Number.lt_ofInt hn
  | real y =>
    obtain rfl := Except.ok.inj hx
    exact of_decide_eq_true (Except.ok.inj h)
  | cell c =>
    obtain rfl := Except.ok.inj hx
    exact of_decide_eq_true (Except.ok.inj h)
  | array g =>
    simp only [isPositive] at h
    simp only [number] at hx
    split at hx
    · rename_i c hc
      rw [hc] at h
      obtain rfl := Except.ok.inj hx
      exact of_decide_eq_true (Except.ok.inj h)
    · exact nomatch hx
  | quantity q => exact nomatch hx
  | _ => exact nomatch h

/-- What counts as more than zero and is finite is read as a positive number. -/
theorem isFactor_number (h : v.isFactor = .ok true) (hx : v.number = .ok x) :
    Scalar.isFactor x = true := by
  obtain ⟨positive, hpositive, h⟩ := Outcome.bind_ok.mp h
  cases positive with
  | false => exact nomatch h
  | true =>
    unfold Scalar.isFactor
    rw [Bool.and_eq_true]
    exact ⟨decide_eq_true (number_pos hpositive hx), isFinite_number h hx⟩

end Quantities.Value
