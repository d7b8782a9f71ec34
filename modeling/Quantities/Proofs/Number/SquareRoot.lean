import Quantities.Proofs.Number.Bits
import Quantities.Proofs.Number.Order
import Quantities.Proofs.Number.WholeRoot

/-!
# Square roots of doubles

The square root of a double is found in two ways. The model of doubles brings the mantissa to a
width at which its square root has as many bits as a mantissa, and rounds by what is left over. The
power `pow` with the exponent one half takes 256 bits, notes whether they are exact, and rounds them.
Both find the double nearest to the square root. There are no ties, since the square root of a double
is never halfway between two doubles.

* `rootExponent`, `radicand`: the square root of `m·2^e` is that of the radicand, times two to the
  power of the exponent;
* `sqrt_finite`: the square root of the model of doubles;
* `toFloat_sqrt`: the square root with 256 bits, rounded.
* **`sqrt_eq_pow`**: the two are the same, but for negative zero and the negative infinity.
* `HalfPowers`: what every library answers for the power one half where there is nothing to round.
* **`sqrt_eq_iff`**: the square root is the power one half of a library exactly where the library
  rounds it to nearest, as `pow` does.

Out of scope: how far the powers of a particular library are from the nearest double.
-/

namespace Quantities.Number

open Float.Model Float.Model.UnpackedFloat

/-! ## The radicand -/

/-- The exponent of the square root of `m·2^e` whose mantissa has full width. -/
def rootExponent (m : Nat) (e : Int) : Int := (e + m.log2 + 2) / 2 - 53

/-- The square of that mantissa, before it is rounded. -/
def radicand (m : Nat) (e : Int) : Nat := m * 2 ^ (e - 2 * rootExponent m e).toNat

variable {m n : Nat} {e : Int}

/-- The width of a radicand. -/
theorem rootExponent_eq (m : Nat) (e : Int) :
    e - 2 * rootExponent m e = 104 - m.log2 ∨ e - 2 * rootExponent m e = 105 - m.log2 := by
  unfold rootExponent
  omega

theorem rootExponent_bounds (h : Canonical m e) :
    -590 ≤ rootExponent m e ∧ rootExponent m e ≤ 460 := by
  have hmin := h.min
  have hmax := h.max
  have hlog := h.log2_lt
  unfold rootExponent
  omega

theorem radicand_bounds (h : Canonical m e) :
    2 ^ 104 ≤ radicand m e ∧ radicand m e + 2 ^ 53 ≤ 2 ^ 106 := by
  have hlog := h.log2_lt
  have hlower : 2 ^ m.log2 ≤ m := Nat.log2_self_le h.pos.ne'
  have hupper : m + 1 ≤ 2 ^ (m.log2 + 1) := Nat.lt_log2_self
  obtain ⟨a, ha⟩ : ∃ a, a = (e - 2 * rootExponent m e).toNat := ⟨_, rfl⟩
  have hwidth : m.log2 + a = 104 ∨ m.log2 + a = 105 := by
    have := rootExponent_eq m e
    omega
  unfold radicand
  rw [← ha]
  constructor
  · calc 2 ^ 104 ≤ 2 ^ (m.log2 + a) := Nat.pow_le_pow_right (by decide) (by omega)
      _ = 2 ^ m.log2 * 2 ^ a := Nat.pow_add ..
      _ ≤ m * 2 ^ a := Nat.mul_le_mul_right _ hlower
  · have hroom : m * 2 ^ a + 2 ^ a ≤ 2 ^ (m.log2 + a + 1) := by
      calc m * 2 ^ a + 2 ^ a = (m + 1) * 2 ^ a := (Nat.succ_mul m _).symm
        _ ≤ 2 ^ (m.log2 + 1) * 2 ^ a := Nat.mul_le_mul_right _ hupper
        _ = 2 ^ (m.log2 + a + 1) := by rw [← Nat.pow_add, Nat.add_right_comm]
    rcases hwidth with hwidth | hwidth
    · rw [hwidth] at hroom
      have hsmall := (Nat.le_add_right _ _).trans hroom
      omega
    · have hwide : 2 ^ 53 ≤ 2 ^ a := Nat.pow_le_pow_right (by decide) (by omega)
      rw [hwidth] at hroom
      omega

/-- The mantissa of a square root has full width, and rounding does not carry it beyond. -/
theorem nearestSqrt_radicand (h : Canonical m e) :
    2 ^ 52 ≤ Nat.sqrt (radicand m e) ∧
      Nat.sqrt (radicand m e) ≤ nearestSqrt (radicand m e) ∧
      nearestSqrt (radicand m e) < 2 ^ 53 := by
  obtain ⟨hlower, hupper⟩ := radicand_bounds h
  generalize radicand m e = n at hlower hupper
  have hn : 0 < n := by omega
  have hsqrt : 2 ^ 52 ≤ Nat.sqrt n := Nat.le_sqrt.mpr (by omega)
  have hsqrt' : Nat.sqrt n < 2 ^ 53 := Nat.sqrt_lt.mpr (by omega)
  have hcarry := (nearestSqrt_bounds hn).1
  have hnear : nearestSqrt n = Nat.sqrt n ∨ nearestSqrt n = Nat.sqrt n + 1 := by
    unfold nearestSqrt
    split
    · exact Or.inl rfl
    · exact Or.inr rfl
  refine ⟨hsqrt, by omega, ?_⟩
  by_contra hge
  have hfull : nearestSqrt n = 2 ^ 53 := by omega
  rw [hfull] at hcarry
  omega

theorem canonical_root (h : Canonical m e) {r : Nat} (hfull : 2 ^ 52 ≤ r) (hlt : r < 2 ^ 53) :
    Canonical r (rootExponent m e) := by
  obtain ⟨hmin, hmax⟩ := rootExponent_bounds h
  exact ⟨⟨by omega, hlt, by omega⟩, by omega, Or.inl hfull⟩

theorem canonical_nearestSqrt (h : Canonical m e) :
    Canonical (nearestSqrt (radicand m e)) (rootExponent m e) := by
  obtain ⟨hfull, hle, hlt⟩ := nearestSqrt_radicand h
  exact canonical_root h (hfull.trans hle) hlt

/-! ## Square roots of the model of doubles -/

/-- Rounding starts from a mantissa in its place. -/
theorem Canonical.shiftToTargetExponent (h : Canonical m e) (a : Accuracy) :
    shiftToTargetExponent .binary64 m e a = (.ofMantissaAndAccuracy m a, e) := by
  unfold UnpackedFloat.shiftToTargetExponent shiftToExponent
  simp only [h.targetExponent, sub_self, Int.toNat_zero]
  exact Prod.ext rfl (add_zero e)

theorem roundedMantissa_ofMantissaAndAccuracy (m : Nat) (a : Accuracy) :
    (ExtendedMantissa.ofMantissaAndAccuracy m a).roundedMantissa = a.roundToNearestEven m := by
  cases a with
  | exact => rfl
  | inexact o => cases o <;> rfl

/-- What is left over beside the square root of `n` that is rounded down. -/
def rootAccuracy (n : Nat) : Accuracy :=
  if n - Nat.sqrt n * Nat.sqrt n = 0 then .exact
  else .inexact (if n - Nat.sqrt n * Nat.sqrt n ≤ Nat.sqrt n then .lt else .gt)

theorem roundToNearestEven_rootAccuracy (n : Nat) :
    (rootAccuracy n).roundToNearestEven (Nat.sqrt n) = nearestSqrt n := by
  unfold rootAccuracy nearestSqrt
  split
  · rename_i hexact
    rw [if_pos (by omega)]
    rfl
  · split <;> rfl

theorem sqrtCore_eq (h : Canonical m e) : sqrtCore .binary64 m e =
    (Nat.sqrt (radicand m e), rootExponent m e, rootAccuracy (radicand m e)) := by
  have hexponent : min (e.ediv 2)
      (Format.binary64.targetExponent ((totalExponent m e + 1).ediv 2)) = rootExponent m e := by
    have hlog := h.log2_lt
    have hle := h.min
    show min (e / 2) (Format.binary64.targetExponent ((totalExponent m e + 1) / 2)) = _
    unfold Format.targetExponent totalExponent rootExponent
    rw [minExponent_binary64, mantissaBits_binary64]
    omega
  unfold sqrtCore
  simp only [hexponent, Nat.shiftLeft_eq]
  rfl

/-- **The square root of a number.** -/
theorem sqrt_finite (h : Canonical m e) :
    UnpackedFloat.sqrt .binary64 (.finite .positive m e h.pos) =
      .finite .positive (nearestSqrt (radicand m e)) (rootExponent m e)
        (canonical_nearestSqrt h).pos := by
  obtain ⟨hfull, hle, hlt⟩ := nearestSqrt_radicand h
  have hstart := canonical_root h hfull (lt_of_le_of_lt hle hlt)
  have hend := canonical_nearestSqrt h
  show roundWithAccuracy .binary64 .positive (sqrtCore .binary64 m e).1 (sqrtCore .binary64 m e).2.1
    (sqrtCore .binary64 m e).2.2 = _
  rw [sqrtCore_eq h]
  -- The mantissa is in its place before it is rounded and after it.
  unfold roundWithAccuracy
  simp only [hstart.shiftToTargetExponent, roundedMantissa_ofMantissaAndAccuracy,
    roundToNearestEven_rootAccuracy, hend.shiftToTargetExponent]
  exact dif_neg hend.pos.ne'

/-! ## Square roots with more bits -/

/-- Nothing is cut off from what fits. -/
theorem Approx.cut_eq_self {a : Approx} (h : a.mantissa.log2 < Approx.width) : a.cut = a := by
  obtain ⟨m, e, exact⟩ := a
  have hexcess : m.log2 + 1 - Approx.width = 0 := Nat.sub_eq_zero_of_le h
  unfold Approx.cut
  simp only [hexcess]
  have hone : twoTo 0 = 1 := rfl
  simp [hone, Nat.mod_one]

theorem Approx.pow_one (h : m.log2 < Approx.width) :
    Approx.pow ⟨m, e, true⟩ 1 = ⟨m, e, true⟩ := by
  have hdigits : Nat.toDigits 2 1 = ['1'] := by decide
  have hone : Approx.mul Approx.one Approx.one = Approx.one := rfl
  unfold Approx.pow
  rw [hdigits, List.foldl_cons, List.foldl_nil, if_pos rfl, hone]
  unfold Approx.mul
  rw [Approx.cut_eq_self]
  · simp [Approx.one]
  · simpa [Approx.one] using h

/-- A square root of one bit more than is kept. -/
theorem Approx.cut_sqrt_four_mul (hlog : (Nat.sqrt (4 * n)).log2 = Approx.width) (e : Int) :
    Approx.cut ⟨Nat.sqrt (4 * n), e, true && Nat.sqrt (4 * n) * Nat.sqrt (4 * n) == 4 * n⟩ =
      ⟨Nat.sqrt n, e + 1, Nat.sqrt n * Nat.sqrt n == n⟩ := by
  obtain ⟨hhalf, hexact⟩ := sqrt_four_mul n
  have hexcess : Approx.width + 1 - Approx.width = 1 := rfl
  have htwo : twoTo ((1 : Nat) : Int) = 2 := rfl
  have hflag : (Nat.sqrt (4 * n) * Nat.sqrt (4 * n) == 4 * n && Nat.sqrt (4 * n) % 2 == 0) =
      (Nat.sqrt n * Nat.sqrt n == n) := by
    rw [Bool.eq_iff_iff, Bool.and_eq_true, beq_iff_eq, beq_iff_eq, beq_iff_eq, hexact]
  unfold Approx.cut
  simp only [hlog, hexcess, htwo, hhalf, Bool.true_and, hflag]
  rfl

theorem mul_twoTo (m a j : Nat) : m * twoTo ((a + 2 * j : Nat) : Int) = m * 2 ^ a * 4 ^ j := by
  show m * 2 ^ (a + 2 * j) = _
  rw [Nat.pow_add, Nat.pow_mul, Nat.mul_assoc]

/-- The width of a square root. -/
theorem log2_sqrt_radicand (h : Canonical m e) (j : Nat) :
    (Nat.sqrt (radicand m e * 4 ^ j)).log2 = 52 + j := by
  obtain ⟨hlower, hupper⟩ := radicand_bounds h
  have hfour : 2 ^ j * 2 ^ j = 4 ^ j := (Nat.mul_pow 2 2 j).symm
  have hsquare : ∀ c : Nat, 2 ^ c * 2 ^ j * (2 ^ c * 2 ^ j) = 2 ^ (c + c) * 4 ^ j := fun c => by
    rw [← hfour, Nat.pow_add]
    ring
  have hle : 2 ^ (52 + j) ≤ Nat.sqrt (radicand m e * 4 ^ j) := by
    rw [Nat.le_sqrt, Nat.pow_add, hsquare]
    exact Nat.mul_le_mul_right _ hlower
  have hlt : Nat.sqrt (radicand m e * 4 ^ j) < 2 ^ (53 + j) := by
    rw [Nat.sqrt_lt, Nat.pow_add, hsquare]
    exact Nat.mul_lt_mul_of_pos_right (by omega) (by positivity)
  have hpos : 0 < Nat.sqrt (radicand m e * 4 ^ j) := lt_of_lt_of_le (by positivity) hle
  rw [Nat.log2_eq_iff hpos.ne']
  exact ⟨hle, by rwa [Nat.add_right_comm]⟩

/-- The square root of a number with 256 bits, and whether that is all of them. -/
theorem Approx.sqrt_eq (h : Canonical m e) : Approx.sqrt ⟨m, e, true⟩ =
    ⟨Nat.sqrt (radicand m e * 4 ^ 203), rootExponent m e - 203,
      Nat.sqrt (radicand m e * 4 ^ 203) * Nat.sqrt (radicand m e * 4 ^ 203) ==
        radicand m e * 4 ^ 203⟩ := by
  have hlog := h.log2_lt
  have hwidth : Approx.width = 256 := rfl
  obtain ⟨a, ha⟩ : ∃ a, a = (e - 2 * rootExponent m e).toNat := ⟨_, rfl⟩
  have hscaled (j : Nat) : m * twoTo ((a + 2 * j : Nat) : Int) = radicand m e * 4 ^ j := by
    rw [mul_twoTo, ha, radicand]
  unfold Approx.sqrt
  simp only [hwidth, floorSqrt_eq]
  rcases rootExponent_eq m e with hshift | hshift
  · -- One bit more than the 256 that are kept.
    have hlift : (if (e - ((2 * 256 - (m.log2 + 1) : Nat) : Int)) % 2 = 0 then
        2 * 256 - (m.log2 + 1) else 2 * 256 - (m.log2 + 1) + 1) = a + 2 * 204 := by
      rw [if_neg (by omega)]
      omega
    have hexponent : (e - ((a + 2 * 204 : Nat) : Int)) / 2 = rootExponent m e - 204 := by omega
    have hfour : radicand m e * 4 ^ 204 = 4 * (radicand m e * 4 ^ 203) := by
      rw [Nat.pow_succ]
      ring
    have hlog' : (Nat.sqrt (4 * (radicand m e * 4 ^ 203))).log2 = Approx.width := by
      rw [← hfour, log2_sqrt_radicand h]
      rfl
    rw [hlift, hscaled, hexponent, hfour, Approx.cut_sqrt_four_mul hlog', sub_add]
    rfl
  · have hlift : (if (e - ((2 * 256 - (m.log2 + 1) : Nat) : Int)) % 2 = 0 then
        2 * 256 - (m.log2 + 1) else 2 * 256 - (m.log2 + 1) + 1) = a + 2 * 203 := by
      rw [if_pos (by omega)]
      omega
    have hexponent : (e - ((a + 2 * 203 : Nat) : Int)) / 2 = rootExponent m e - 203 := by omega
    rw [hlift, hscaled, hexponent, Approx.cut_eq_self]
    · simp
    · simp only [log2_sqrt_radicand h]
      decide

/-- **The square root as a root.** -/
theorem toFloat_sqrt (h : Canonical m e) : (Approx.sqrt ⟨m, e, true⟩).toFloat false =
    Float.ofModel (Float.Model.pack (.finite .positive (nearestSqrt (radicand m e))
      (rootExponent m e) (canonical_nearestSqrt h).pos)) := by
  have hk := canonical_nearestSqrt h
  obtain ⟨hfull, hle, -⟩ := nearestSqrt_radicand h
  have hfull := hfull.trans hle
  have hlog := log2_sqrt_radicand h 203
  obtain ⟨i, hi⟩ := Nat.exists_eq_succ_of_ne_zero hk.pos.ne'
  have hpos : Nat.sqrt (radicand m e * 4 ^ 203) ≠ 0 := by
    intro h0
    rw [h0] at hlog
    exact nomatch hlog
  -- Of the 256 bits, 203 are behind the last one of the mantissa, or 204 with the one for the rest.
  have hexact := nearestQuotient_sqrt hi 202
  have hcut := nearestQuotient_sqrt_add hi 202
  rw [Approx.sqrt_eq h]
  generalize Nat.sqrt (radicand m e * 4 ^ 203) = r at *
  unfold Approx.toFloat
  simp only [beq_iff_eq]
  split
  · rename_i hsquare
    refine toFloat_eq (Nat.pos_of_ne_zero hpos) hk hfull (by omega) (by omega) ?_
    rw [sub_sub_cancel]
    exact hexact hsquare
  · refine toFloat_eq (by omega) hk hfull ?_ (by omega) ?_
    · rw [log2_two_mul_add_one hpos, hlog]
      omega
    · rw [sub_sub, sub_sub_cancel]
      exact hcut

/-! ## The power one half of every sort of double -/

section Sorts

variable {x : Float} {m : Nat} {e : Int} {hm : 0 < m}

theorem isNaN_eq (x : Float) : x.isNaN = x.toModel.unpack.isNaN := rfl

theorem isInf_eq (x : Float) : x.isInf = x.toModel.unpack.isInf := rfl

/-- One half is no integer. -/
theorem pow_half (x : Float) : pow x 0.5 = fractionalPower x 0.5 := by
  have hnone : toInteger? 0.5 = none := by decide +kernel
  rw [pow, hnone]

theorem pow_half_of_notANumber (h : x.toModel.unpack = .notANumber) : pow x 0.5 = x := by
  rw [pow_half, fractionalPower, isNaN_eq, h]
  rfl

theorem pow_half_of_infinity {s : Sign} (h : x.toModel.unpack = .infinity s) :
    pow x 0.5 = 1.0 / 0.0 := by
  have hinfinite : extreme false (!(Binary.ofFloat 0.5).negative) = 1.0 / 0.0 := by
    decide +kernel
  rw [pow_half, fractionalPower, isNaN_eq, isInf_eq, h]
  exact hinfinite

/-- The root of a zero has no sign. -/
theorem pow_half_of_zero {s : Sign} (h : x.toModel.unpack = .zero s) : pow x 0.5 = 0.0 := by
  have hzero : extreme false (Binary.ofFloat 0.5).negative = 0.0 := by decide +kernel
  rw [pow_half, fractionalPower, isNaN_eq, isInf_eq, h]
  simp only [ofFloat_of_zero h, hzero]
  rfl

theorem pow_half_of_negative (h : x.toModel.unpack = .finite .negative m e hm) :
    pow x 0.5 = 0.0 / 0.0 := by
  obtain ⟨hsign, hmantissa, -⟩ := ofFloat_of_finite h
  have hnegative : (Binary.ofFloat x).negative = true := hsign.mpr rfl
  rw [pow_half, fractionalPower, isNaN_eq, isInf_eq, h]
  simp only [hmantissa, hnegative, hm.ne', if_false]
  rfl

/-- One half is the repeated square root that is taken once. -/
theorem reduceHalves_half : reduceHalves 64 (Binary.ofFloat 0.5).mantissa
    (-(Binary.ofFloat 0.5).exponent).toNat = (1, 1) := by
  decide +kernel

theorem pow_half_of_positive (h : x.toModel.unpack = .finite .positive m e hm) :
    pow x 0.5 = (Approx.sqrt ⟨m, e, true⟩).toFloat false := by
  obtain ⟨hsign, hmantissa, hexponent⟩ := ofFloat_of_finite h
  have hnegative : (Binary.ofFloat x).negative = false :=
    Bool.eq_false_iff.mpr fun hneg => nomatch hsign.mp hneg
  have hhalf : (Binary.ofFloat 0.5).negative = false := by decide +kernel
  have hfits : m.log2 < Approx.width := (canonical_unpack h).log2_lt.trans (by decide)
  rw [pow_half, fractionalPower, isNaN_eq, isInf_eq, h]
  simp only [hmantissa, hnegative, hhalf, hm.ne', reduceHalves_half, Binary.approx, hexponent,
    Bool.false_eq_true, if_false, Approx.pow_one hfits, Approx.sqrtIter]
  rfl

/-- A double is the number that it is unpacked to. -/
theorem eq_ofModel_pack {u : UnpackedFloat} (h : x.toModel.unpack = u) :
    x = Float.ofModel (Float.Model.pack u) := by
  rw [← h, pack_unpack_model]

theorem multiple_of_finite {s : Sign} (h : x.toModel.unpack = .finite s m e hm) :
    multiple x = s.apply (m * 2 ^ (e + 1074).toNat) := by
  rw [multiple, h]
  rfl

/-- The sign that a finite double is unpacked with says on which side of zero it lies. -/
theorem pos_of_finite (h : x.toModel.unpack = .finite .positive m e hm) :
    0 < x ∧ x.isFinite = true := by
  have hnumber : IsNumber x := by simp [IsNumber, h]
  have hfinite : x.toModel.unpack.isFinite = true := by
    rw [h]
    rfl
  exact ⟨lt_iff.mpr ⟨isNumber_zero, hnumber, multiple_of_finite h ▸ multiple_pos hm e⟩, hfinite⟩

theorem lt_zero_of_finite (h : x.toModel.unpack = .finite .negative m e hm) : x < 0 := by
  by_contra hx
  have hsign : (0 : Int) ≤ -(m * 2 ^ (e + 1074).toNat) :=
    (not_lt_zero_iff.mp hx).trans_eq (multiple_of_finite h)
  have hpos := multiple_pos hm e
  omega

end Sorts

/-- **The square root is the power one half**, but for negative zero and the negative infinity. -/
theorem sqrt_eq_pow {x : Float} (hx : x ≠ -0.0) (hinf : x ≠ -(1.0 / 0.0)) :
    Float.sqrt x = pow x 0.5 := by
  have hsqrt : Float.sqrt x =
      Float.ofModel (Float.Model.pack (UnpackedFloat.sqrt .binary64 x.toModel.unpack)) := rfl
  have hundefined : (0.0 / 0.0 : Float) = Float.ofModel (Float.Model.pack .notANumber) := by
    decide +kernel
  rw [hsqrt]
  cases hu : x.toModel.unpack with
  | notANumber =>
    rw [pow_half_of_notANumber hu]
    exact (eq_ofModel_pack hu).symm
  | infinity s =>
    cases s with
    | negative => exact absurd ((eq_ofModel_pack hu).trans (by decide +kernel)) hinf
    | positive =>
      rw [pow_half_of_infinity hu]
      decide +kernel
  | zero s =>
    cases s with
    | negative => exact absurd (eq_ofModel_pack hu) hx
    | positive =>
      rw [pow_half_of_zero hu]
      rfl
  | finite s m e hm =>
    cases s with
    | negative =>
      rw [pow_half_of_negative hu, hundefined]
      rfl
    | positive =>
      rw [pow_half_of_positive hu, toFloat_sqrt (canonical_unpack hu),
        sqrt_finite (canonical_unpack hu)]

/-! ## The power one half of any library -/

/-- What the power with the exponent one half is where it needs no rounding: what is undefined stays
so, either zero goes to the positive one, and infinity stays. -/
structure HalfPowers (p : Float → Float → Float) : Prop where
  undefined : ∀ x, x.isNaN = true → (p x 0.5).isNaN = true
  zero : p 0.0 0.5 = 0.0
  negativeZero : p (-0.0) 0.5 = 0.0
  infinity : p (1.0 / 0.0) 0.5 = 1.0 / 0.0

variable {p : Float → Float → Float} {x y : Float}

theorem unpack_of_isNaN (h : x.isNaN = true) : x.toModel.unpack = .notANumber := by
  rw [isNaN_eq] at h
  cases hu : x.toModel.unpack with
  | notANumber => rfl
  | infinity | zero | finite => simp [UnpackedFloat.isNaN, hu] at h

theorem eq_of_isNaN (hx : x.isNaN = true) (hy : y.isNaN = true) : x = y :=
  (eq_ofModel_pack (unpack_of_isNaN hx)).trans (eq_ofModel_pack (unpack_of_isNaN hy)).symm

theorem halfPowers_pow : HalfPowers pow where
  undefined x hx := by rwa [pow_half_of_notANumber (unpack_of_isNaN hx)]
  zero := by decide +kernel
  negativeZero := by decide +kernel
  infinity := by decide +kernel

/-- **Square roots and powers.** Of what is not below zero, and not negative zero, the square root is
the power one half of a library exactly where the library rounds it to nearest; and that is in
question only for finite doubles above zero. -/
theorem sqrt_eq_iff (hp : HalfPowers p) (hx : ¬ x < 0) (hzero : x ≠ -0.0) :
    Float.sqrt x = p x 0.5 ↔ (0 < x ∧ x.isFinite = true → p x 0.5 = pow x 0.5) := by
  have hinf : x ≠ -(1.0 / 0.0) := by
    rintro rfl
    exact hx (by decide +kernel)
  rw [sqrt_eq_pow hzero hinf]
  refine ⟨fun h _ => h.symm, fun h => ?_⟩
  by_cases hpositive : 0 < x ∧ x.isFinite = true
  · exact (h hpositive).symm
  cases hu : x.toModel.unpack with
  | notANumber =>
    have hnan : x.isNaN = true := by rw [isNaN_eq, hu]; rfl
    exact eq_of_isNaN (by rwa [pow_half_of_notANumber hu]) (hp.undefined x hnan)
  | infinity s =>
    cases s with
    | negative => exact absurd ((eq_ofModel_pack hu).trans (by decide +kernel)) hinf
    | positive =>
      obtain rfl : x = 1.0 / 0.0 := (eq_ofModel_pack hu).trans (by decide +kernel)
      rw [pow_half_of_infinity hu, hp.infinity]
  | zero s =>
    cases s with
    | negative => exact absurd (eq_ofModel_pack hu) hzero
    | positive =>
      obtain rfl : x = 0.0 := eq_ofModel_pack hu
      rw [pow_half_of_zero hu, hp.zero]
  | finite s m e hm =>
    cases s with
    | negative => exact absurd (lt_zero_of_finite hu) hx
    | positive => exact absurd (pos_of_finite hu) hpositive

end Quantities.Number
