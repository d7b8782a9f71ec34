import Quantities.Proofs.Number.One

/-!
# Doubles in order

A finite double is a whole multiple of the smallest double above zero, and doubles are in the order
of these multiples. So whatever is said about the order of doubles is said about integers.

* `unpack_pack_neg`: packing a number rounds it alike with either sign.
* `multipleOf`, `multiple`: the multiple that an unpacked double, or a double, is.
* `multiple_lt_of_exponent`: full width is what lets the exponents decide.
* `compare_unpacked`: numbers compare as their multiples.
* **`lt_iff`**, `le_iff`: a double is below another one where both are numbers and the multiple is
  below the other.
-/

namespace Quantities.Number

open Float.Model Float.Model.UnpackedFloat

/-! ## The other sign -/

theorem neg_neg_sign (s : Sign) : - -s = s := by cases s <;> rfl

/-- The sign bit has no say in what the other bits mean. -/
theorem unpack_packComponents_neg (s : Sign) (e : BitVec 11) (m : BitVec 52) :
    UnpackedFloat.unpack .binary64 (packComponents .binary64 (-s) e m) =
      (UnpackedFloat.unpack .binary64 (packComponents .binary64 s e m)).neg := by
  unfold UnpackedFloat.unpack
  simp only [unpackExponent_packComponents, unpackMantissa_packComponents,
    unpackSign_packComponents, Sign.ofBitVec_toBitVec]
  split
  · split <;> rfl
  split
  · split <;> rfl
  · rfl

/-- A number that is packed and unpacked is what it was up to rounding, in either sign. -/
theorem unpack_pack_neg (u : UnpackedFloat) :
    (Float.Model.pack u.neg).unpack = (Float.Model.pack u).unpack.neg := by
  show UnpackedFloat.unpack .binary64 (UnpackedFloat.pack .binary64 u.neg) =
    (UnpackedFloat.unpack .binary64 (UnpackedFloat.pack .binary64 u)).neg
  cases u with
  | notANumber => rfl
  | infinity s => exact unpack_packComponents_neg s _ _
  | zero s => exact unpack_packComponents_neg s _ _
  | finite s m e hm =>
    show UnpackedFloat.unpack .binary64 (UnpackedFloat.pack .binary64 (.finite (-s) m e hm)) = _
    unfold UnpackedFloat.pack
    simp only
    split
    · exact unpack_packComponents_neg s _ _
    split
    · exact unpack_packComponents_neg s _ _
    · exact unpack_packComponents_neg s _ _

/-! ## Doubles as integers -/

/-- The first power of two that is out of range, in units of the smallest double above zero. -/
def limit : Nat := 2 ^ 53 * 2 ^ 2045

/-- The multiple of the smallest double above zero that an unpacked double is. An infinity counts
as the first power of two that is out of range. -/
def multipleOf : UnpackedFloat → Int
  | .notANumber => 0
  | .infinity s => s.apply limit
  | .zero _ => 0
  | .finite s m e _ => s.apply (m * 2 ^ (e + 1074).toNat)

theorem multipleOf_neg (u : UnpackedFloat) : multipleOf u.neg = -multipleOf u := by
  have hs : ∀ (s : Sign) (n : Int), (-s).apply n = -s.apply n := by
    intro s n
    cases s with
    | negative => exact (neg_neg n).symm
    | positive => rfl
  cases u with
  | notANumber => rfl
  | infinity s => exact hs s _
  | zero s => rfl
  | finite s m e hm => exact hs s _

variable {m n : Nat} {e e' : Int}

theorem multiple_pos (hm : 0 < m) (e : Int) : 0 < (m * 2 ^ (e + 1074).toNat : Int) := by positivity

theorem limit_pos : 0 < (limit : Int) := by
  unfold limit
  positivity

theorem multiple_lt_limit (h : Canonical m e) : (m * 2 ^ (e + 1074).toNat : Int) < limit := by
  have hexponent : (e + 1074).toNat ≤ 2045 := by
    have := h.max
    omega
  have hlt : m * 2 ^ (e + 1074).toNat < limit := by
    calc m * 2 ^ (e + 1074).toNat < 2 ^ 53 * 2 ^ (e + 1074).toNat :=
          Nat.mul_lt_mul_of_pos_right h.lt (by positivity)
      _ ≤ limit := by
          unfold limit
          gcongr
          decide
  exact_mod_cast hlt

/-- Of two numbers with different exponents the one with the greater exponent is greater. -/
theorem multiple_lt_of_exponent (hm : Canonical m e) (hn : Canonical n e') (h : e < e') :
    (m * 2 ^ (e + 1074).toNat : Int) < n * 2 ^ (e' + 1074).toNat := by
  have hfull : 2 ^ 52 ≤ n := hn.full.resolve_right (by have := hm.min; omega)
  have hexponent : 53 + (e + 1074).toNat ≤ 52 + (e' + 1074).toNat := by
    have := hm.min
    omega
  have hlt : m * 2 ^ (e + 1074).toNat < n * 2 ^ (e' + 1074).toNat := by
    calc m * 2 ^ (e + 1074).toNat < 2 ^ 53 * 2 ^ (e + 1074).toNat :=
          Nat.mul_lt_mul_of_pos_right hm.lt (by positivity)
      _ ≤ 2 ^ 52 * 2 ^ (e' + 1074).toNat := by
          rw [← Nat.pow_add, ← Nat.pow_add]
          exact Nat.pow_le_pow_right (by decide) hexponent
      _ ≤ n * 2 ^ (e' + 1074).toNat := Nat.mul_le_mul_right _ hfull
  exact_mod_cast hlt

theorem then_compare (hm : Canonical m e) (hn : Canonical n e') :
    (compare e e').then (compare m n) =
      compare (m * 2 ^ (e + 1074).toNat : Int) (n * 2 ^ (e' + 1074).toNat) := by
  rcases lt_trichotomy e e' with h | rfl | h
  · rw [compare_lt_iff_lt.mpr h, compare_lt_iff_lt.mpr (multiple_lt_of_exponent hm hn h)]
    rfl
  · have hmono : StrictMono fun k : Nat => (k * 2 ^ (e + 1074).toNat : Int) := fun k l hkl => by
      have : (0 : Int) < 2 ^ (e + 1074).toNat := by positivity
      exact Int.mul_lt_mul_of_pos_right (by exact_mod_cast hkl) this
    rw [compare_eq_iff_eq.mpr rfl, ← cmp_eq_compare, ← cmp_eq_compare]
    exact (hmono.cmp_map_eq m n).symm
  · rw [compare_gt_iff_gt.mpr h, compare_gt_iff_gt.mpr (multiple_lt_of_exponent hn hm h)]
    rfl

theorem compare_neg_neg (a b : Int) : compare (-a) (-b) = compare b a := by
  rcases lt_trichotomy a b with h | rfl | h
  · rw [compare_gt_iff_gt.mpr h, compare_gt_iff_gt.mpr (neg_lt_neg h)]
  · rw [compare_eq_iff_eq.mpr rfl, compare_eq_iff_eq.mpr rfl]
  · rw [compare_lt_iff_lt.mpr h, compare_lt_iff_lt.mpr (neg_lt_neg h)]

/-- The unpacked form of some double. -/
def Unpacked (u : UnpackedFloat) : Prop :=
  ∀ s m e hm, u = .finite s m e hm → Canonical m e

theorem abs_multipleOf_lt {u : UnpackedFloat} (hu : Unpacked u) (h : ∀ s, u ≠ .infinity s) :
    |multipleOf u| < limit := by
  cases u with
  | notANumber => exact limit_pos
  | infinity s => exact absurd rfl (h s)
  | zero s => exact limit_pos
  | finite s m e hm =>
    have hpos := multiple_pos hm e
    have hlt := multiple_lt_limit (hu s m e hm rfl)
    rw [abs_lt]
    cases s with
    | negative => exact ⟨neg_lt_neg hlt, (neg_neg_of_pos hpos).trans limit_pos⟩
    | positive => exact ⟨(neg_neg_of_pos limit_pos).trans hpos, hlt⟩

/-- Numbers compare as the multiples that they are. -/
theorem compare_unpacked {u v : UnpackedFloat} (hu : Unpacked u) (hv : Unpacked v)
    (hu' : u ≠ .notANumber) (hv' : v ≠ .notANumber) :
    u.compare v = some (compare (multipleOf u) (multipleOf v)) := by
  have hgt : ∀ {a b : Int}, b < a → some .gt = some (compare a b) := fun h =>
    congrArg some (compare_gt_iff_gt.mpr h).symm
  have hlt : ∀ {a b : Int}, a < b → some .lt = some (compare a b) := fun h =>
    congrArg some (compare_lt_iff_lt.mpr h).symm
  have heq : ∀ {a : Int}, some .eq = some (compare a a) :=
    congrArg some (compare_eq_iff_eq.mpr rfl).symm
  have hlimit : -(limit : Int) < limit := (neg_neg_of_pos limit_pos).trans limit_pos
  cases u with
  | notANumber => exact absurd rfl hu'
  | infinity s =>
    cases v with
    | notANumber => exact absurd rfl hv'
    | infinity t =>
      cases s <;> cases t
      · exact heq
      · exact hlt hlimit
      · exact hgt hlimit
      · exact heq
    | zero t =>
      cases s with
      | negative => exact hlt (neg_neg_of_pos limit_pos)
      | positive => exact hgt limit_pos
    | finite t n e hn =>
      have hrange := abs_lt.mp (abs_multipleOf_lt hv nofun)
      cases s with
      | negative => cases t <;> exact hlt hrange.1
      | positive => cases t <;> exact hgt hrange.2
  | zero s =>
    cases v with
    | notANumber => exact absurd rfl hv'
    | infinity t =>
      cases t with
      | negative => exact hgt (neg_neg_of_pos limit_pos)
      | positive => exact hlt limit_pos
    | zero t => exact heq
    | finite t n e hn =>
      cases t with
      | negative => exact hgt (neg_neg_of_pos (multiple_pos hn e))
      | positive => exact hlt (multiple_pos hn e)
  | finite s m e hm =>
    cases v with
    | notANumber => exact absurd rfl hv'
    | infinity t =>
      have hrange := abs_lt.mp (abs_multipleOf_lt hu nofun)
      cases t with
      | negative => cases s <;> exact hgt hrange.1
      | positive => cases s <;> exact hlt hrange.2
    | zero t =>
      cases s with
      | negative => exact hlt (neg_neg_of_pos (multiple_pos hm e))
      | positive => exact hgt (multiple_pos hm e)
    | finite t n e' hn =>
      -- The exponents decide before the mantissas, of negative numbers the other way round.
      have hmantissas := then_compare (hu s m e hm rfl) (hv t n e' hn rfl)
      have hm := multiple_pos hm e
      have hn := multiple_pos hn e'
      cases s <;> cases t
      · show some ((compare e e').then (compare m n)).swap = some (compare (-_) (-_))
        rw [hmantissas, compare_neg_neg, Int.compare_swap]
      · exact hlt ((neg_neg_of_pos hm).trans hn)
      · exact hgt ((neg_neg_of_pos hn).trans hm)
      · exact congrArg some hmantissas

/-! ## The order of doubles -/

/-- The double is not undefined. -/
def IsNumber (x : Float) : Prop := x.toModel.unpack ≠ .notANumber

/-- The multiple of the smallest double above zero that a double is. -/
def multiple (x : Float) : Int := multipleOf x.toModel.unpack

variable {x y : Float}

theorem unpacked_toModel (x : Float) : Unpacked x.toModel.unpack := fun _ _ _ _ => canonical_unpack

theorem compare_of_isNumber (hx : IsNumber x) (hy : IsNumber y) :
    x.toModel.unpack.compare y.toModel.unpack = some (compare (multiple x) (multiple y)) :=
  compare_unpacked (unpacked_toModel x) (unpacked_toModel y) hx hy

theorem compare_of_not_isNumber (h : ¬ (IsNumber x ∧ IsNumber y)) :
    x.toModel.unpack.compare y.toModel.unpack = none := by
  rcases not_and_or.mp h with hx | hy
  · rw [not_not.mp hx]
    rfl
  · rw [not_not.mp hy]
    cases x.toModel.unpack <;> rfl

theorem lt_iff_compare :
    x < y ↔ x.toModel.unpack.compare y.toModel.unpack = some .lt := by
  have hlt : x < y ↔ UnpackedFloat.lt x.toModel.unpack y.toModel.unpack = true :=
    decide_eq_true_iff
  rw [hlt, UnpackedFloat.lt, beq_iff_eq]

theorem le_iff_compare : x ≤ y ↔
    ∃ o, x.toModel.unpack.compare y.toModel.unpack = some o ∧ o.isLE = true := by
  have hle : x ≤ y ↔ UnpackedFloat.le x.toModel.unpack y.toModel.unpack = true :=
    decide_eq_true_iff
  rw [hle, UnpackedFloat.le, Option.any_eq_true]

/-- **Numbers are in the order of their multiples**, infinities included; what is undefined is below
and above nothing. -/
theorem lt_iff : x < y ↔ IsNumber x ∧ IsNumber y ∧ multiple x < multiple y := by
  rw [lt_iff_compare]
  by_cases h : IsNumber x ∧ IsNumber y
  · rw [compare_of_isNumber h.1 h.2, Option.some.injEq, compare_lt_iff_lt]
    exact ⟨fun hlt => ⟨h.1, h.2, hlt⟩, fun hlt => hlt.2.2⟩
  · rw [compare_of_not_isNumber h]
    exact ⟨nofun, fun hlt => absurd ⟨hlt.1, hlt.2.1⟩ h⟩

theorem le_iff : x ≤ y ↔ IsNumber x ∧ IsNumber y ∧ multiple x ≤ multiple y := by
  rw [le_iff_compare]
  by_cases h : IsNumber x ∧ IsNumber y
  · rw [compare_of_isNumber h.1 h.2]
    refine ⟨fun ⟨o, ho, hle⟩ => ⟨h.1, h.2, Int.isLE_compare.mp ?_⟩, fun hle =>
      ⟨_, rfl, Int.isLE_compare.mpr hle.2.2⟩⟩
    rwa [Option.some.inj ho]
  · rw [compare_of_not_isNumber h]
    exact ⟨nofun, fun hle => absurd ⟨hle.1, hle.2.1⟩ h⟩

theorem unpack_pack_toModel (x : Float) :
    (Float.Model.pack x.toModel.unpack).unpack = x.toModel.unpack := by
  rw [pack_unpack_model]

theorem unpack_neg (x : Float) : (-x).toModel.unpack = x.toModel.unpack.neg := by
  show (Float.Model.pack x.toModel.unpack.neg).unpack = _
  rw [unpack_pack_neg, unpack_pack_toModel]

theorem neg_eq_notANumber {u : UnpackedFloat} : u.neg = .notANumber ↔ u = .notANumber := by
  cases u <;> simp [UnpackedFloat.neg]

theorem isNumber_neg : IsNumber (-x) ↔ IsNumber x := by
  rw [IsNumber, IsNumber, unpack_neg, not_iff_not, neg_eq_notANumber]

theorem multiple_neg (x : Float) : multiple (-x) = -multiple x := by
  rw [multiple, unpack_neg, multipleOf_neg]
  rfl

theorem isNumber_zero : IsNumber 0 := nofun

theorem multiple_zero : multiple 0 = 0 := rfl

/-- What is not below zero is undefined, or its multiple is not. -/
theorem not_lt_zero_iff : ¬ x < 0 ↔ 0 ≤ multiple x := by
  rw [lt_iff, multiple_zero]
  constructor
  · intro h
    by_cases hx : IsNumber x
    · exact not_lt.mp fun hlt => h ⟨hx, isNumber_zero, hlt⟩
    · rw [multiple, not_not.mp hx]
      exact le_rfl
  · exact fun h hlt => absurd hlt.2.2 (not_lt.mpr h)

end Quantities.Number
