import Quantities.Proofs.Number.Order

/-!
# Differences of doubles

A difference of doubles is rounded, and may be infinite, but it keeps its sign: it is below zero,
zero or above zero as the first double is below the second one, equal to it or above it. Taken the
other way round it is the same difference with the other sign.

* `sub_swap`: the difference of two unpacked doubles, and the one the other way round.
* `multiple_sub_swap`, `isNumber_sub_swap`: the same for doubles.
* `HasSign`: a number has the sign of an integer. Rounding keeps it (`hasSign_normalize`), and so
  does every difference but that of an infinity and itself (`hasSign_sub_unpacked`).
* **`sign_sub`**: a difference has the sign of the order.
* `isNumber_add`: the sum of finite numbers is a number.
* `multiple_abs_mul`: an absolute value times a number that is not below zero is not below zero.
-/

namespace Quantities.Number

open Float.Model Float.Model.UnpackedFloat

variable {x y : Float}

/-! ## The other way round -/

theorem roundWithAccuracy_neg (f : Format) (s : Sign) (m : Nat) (e : Int) (a : Accuracy) :
    roundWithAccuracy f (-s) m e a = (roundWithAccuracy f s m e a).neg := by
  unfold roundWithAccuracy
  simp only
  split <;> rfl

theorem normalize_neg (f : Format) {d : Int} (hd : d ≠ 0) (e : Int) (s : Sign) :
    UnpackedFloat.normalize f (-d) e s = (UnpackedFloat.normalize f d e s).neg := by
  unfold UnpackedFloat.normalize
  rcases lt_or_gt_of_ne hd with h | h
  · have hneg : compare (-d) 0 = .gt := compare_gt_iff_gt.mpr (by omega)
    have hpos : compare d 0 = .lt := compare_lt_iff_lt.mpr h
    rw [hneg, hpos]
    exact roundWithAccuracy_neg f .negative _ _ _
  · have hneg : compare (-d) 0 = .lt := compare_lt_iff_lt.mpr (by omega)
    have hpos : compare d 0 = .gt := compare_gt_iff_gt.mpr h
    simp only [hneg, hpos, neg_neg]
    exact roundWithAccuracy_neg f .positive _ _ _

/-- The difference the other way round is the difference with the other sign, or both are zero. -/
theorem sub_swap (f : Format) (u v : UnpackedFloat) :
    UnpackedFloat.sub f v u = (UnpackedFloat.sub f u v).neg ∨
      ∃ s t, UnpackedFloat.sub f u v = .zero s ∧ UnpackedFloat.sub f v u = .zero t := by
  cases u with
  | notANumber => cases v <;> exact Or.inl rfl
  | infinity s =>
    cases v with
    | infinity t => cases s <;> cases t <;> exact Or.inl rfl
    | _ => exact Or.inl rfl
  | zero s =>
    cases v with
    | notANumber => exact Or.inl rfl
    | infinity t => exact Or.inl (congrArg UnpackedFloat.infinity (neg_neg_sign t).symm)
    | zero t => cases s <;> cases t <;> exact Or.inr ⟨_, _, rfl, rfl⟩
    | finite t m e hm =>
      exact Or.inl (congrArg (UnpackedFloat.finite · m e hm) (neg_neg_sign t).symm)
  | finite s m e hm =>
    cases v with
    | notANumber => exact Or.inl rfl
    | infinity t => exact Or.inl (congrArg UnpackedFloat.infinity (neg_neg_sign t).symm)
    | zero t => exact Or.inl rfl
    | finite t n e' hn =>
      unfold UnpackedFloat.sub
      simp only
      rw [min_comm e' e, ← neg_sub (s.apply _)]
      obtain ⟨d, hd⟩ : ∃ d, d = s.apply ((decreaseExponent m e (min e e')).1 : Int) - t.apply
        ((decreaseExponent n e' (min e e')).1 : Int) := ⟨_, rfl⟩
      rw [← hd]
      -- The two differences are rounded from `d` and from `-d`. Zero has no other sign to take.
      by_cases h0 : d = 0
      · rw [h0]
        exact Or.inr ⟨_, _, rfl, rfl⟩
      · exact Or.inl (normalize_neg f h0 _ _)

/-- A difference of doubles and the one the other way round. -/
theorem unpack_sub_swap (x y : Float) :
    (y - x).toModel.unpack = (x - y).toModel.unpack.neg ∨
      ∃ s t, (x - y).toModel.unpack = .zero s ∧ (y - x).toModel.unpack = .zero t := by
  have hzero : ∀ s, (Float.Model.pack (.zero s)).unpack = .zero s := fun s => by cases s <;> rfl
  have hsub : ∀ u v : Float, (u - v).toModel.unpack =
      (Float.Model.pack (UnpackedFloat.sub .binary64 u.toModel.unpack v.toModel.unpack)).unpack :=
    fun _ _ => rfl
  rw [hsub, hsub]
  rcases sub_swap .binary64 x.toModel.unpack y.toModel.unpack with h | ⟨s, t, hs, ht⟩
  · exact Or.inl (by rw [h, unpack_pack_neg])
  · exact Or.inr ⟨s, t, by rw [hs, hzero], by rw [ht, hzero]⟩

theorem multiple_sub_swap (x y : Float) : multiple (y - x) = -multiple (x - y) := by
  unfold multiple
  rcases unpack_sub_swap x y with h | ⟨s, t, hs, ht⟩
  · rw [h, multipleOf_neg]
  · rw [hs, ht]
    rfl

theorem isNumber_sub_swap : IsNumber (y - x) ↔ IsNumber (x - y) := by
  unfold IsNumber
  rcases unpack_sub_swap x y with h | ⟨s, t, hs, ht⟩
  · rw [h, not_iff_not, neg_eq_notANumber]
  · rw [hs, ht]
    exact ⟨nofun, nofun⟩

/-! ## Rounding keeps the sign -/

/-- An unpacked double is a number of the sign of an integer. -/
structure HasSign (u : UnpackedFloat) (n : Int) : Prop where
  number : u ≠ .notANumber
  sign : (multipleOf u).sign = n.sign

theorem HasSign.neg {u : UnpackedFloat} {n : Int} (h : HasSign u n) : HasSign u.neg (-n) :=
  ⟨fun h0 => h.number (neg_eq_notANumber.mp h0), by
    rw [multipleOf_neg, Int.sign_neg, Int.sign_neg, h.sign]⟩

theorem hasSign_self {u : UnpackedFloat} (h : u ≠ .notANumber) : HasSign u (multipleOf u) :=
  ⟨h, rfl⟩

theorem hasSign_of_isPositive {u : UnpackedFloat} {n : Int} (hn : 0 < n) (h : IsPositive u) :
    HasSign u n := by
  have hpos : u ≠ .notANumber ∧ 0 < multipleOf u := by
    match u, h with
    | .infinity .positive, _ => exact ⟨nofun, limit_pos⟩
    | .finite .positive m e hm, _ => exact ⟨nofun, multiple_pos hm e⟩
  exact ⟨hpos.1, by rw [Int.sign_eq_one_of_pos hpos.2, Int.sign_eq_one_of_pos hn]⟩

/-- What was rounded is a number of the same sign. -/
theorem hasSign_normalize {d e : Int} (he : -1074 ≤ e) :
    HasSign (Float.Model.pack (UnpackedFloat.normalize .binary64 d e .positive)).unpack d := by
  have hpos : ∀ {n : Nat}, 0 < n →
      HasSign (Float.Model.pack (UnpackedFloat.normalize .binary64 n e .positive)).unpack n :=
    fun hn => hasSign_of_isPositive (by omega) (isPositive_pack_normalize hn he)
  rcases lt_trichotomy d 0 with h | rfl | h
  · obtain ⟨n, rfl⟩ : ∃ n : Nat, d = -n := ⟨d.natAbs, by omega⟩
    rw [normalize_neg .binary64 (by omega), unpack_pack_neg]
    exact (hpos (by omega)).neg
  · have hzero : UnpackedFloat.normalize .binary64 0 e .positive = .zero .positive := rfl
    rw [hzero]
    exact ⟨nofun, rfl⟩
  · obtain ⟨n, rfl⟩ := Int.eq_ofNat_of_zero_le h.le
    exact hpos (by omega)

/-! ## Differences -/

theorem apply_shiftLeft (s : Sign) (m k : Nat) :
    s.apply ((m <<< k : Nat) : Int) = s.apply m * 2 ^ k := by
  rw [Nat.shiftLeft_eq]
  cases s <;> simp [Sign.apply]

/-- A mantissa that is shifted to a smaller exponent. -/
theorem multipleOf_decreaseExponent {s : Sign} {m : Nat} {e t : Int} {hm : 0 < m} (ht : t ≤ e)
    (hmin : -1074 ≤ t) :
    multipleOf (.finite s m e hm) =
      s.apply ((decreaseExponent m e t).1 : Int) * 2 ^ (t + 1074).toNat := by
  have hexponent : (e + 1074).toNat = (e - t).toNat + (t + 1074).toNat := by omega
  show s.apply (m * 2 ^ (e + 1074).toNat) = s.apply ((m <<< (e - t).toNat : Nat) : Int) * _
  rw [apply_shiftLeft, hexponent, pow_add]
  cases s <;> simp [Sign.apply, mul_assoc]

/-- The difference of finite numbers. -/
theorem hasSign_sub_finite {s t : Sign} {m n : Nat} {e e' : Int} {hm : 0 < m} {hn : 0 < n}
    (he : -1074 ≤ e) (he' : -1074 ≤ e') :
    HasSign (Float.Model.pack
        (UnpackedFloat.sub .binary64 (.finite s m e hm) (.finite t n e' hn))).unpack
      (multipleOf (.finite s m e hm) - multipleOf (.finite t n e' hn)) := by
  have hmin : -1074 ≤ min e e' := le_min he he'
  have hunit : (0 : Int) < 2 ^ (min e e' + 1074).toNat := by positivity
  obtain ⟨hnumber, hsign⟩ := hasSign_normalize (d := s.apply
    ((decreaseExponent m e (min e e')).1 : Int) - t.apply (decreaseExponent n e' (min e e')).1) hmin
  refine ⟨hnumber, hsign.trans ?_⟩
  rw [multipleOf_decreaseExponent (min_le_left e e') hmin,
    multipleOf_decreaseExponent (min_le_right e e') hmin, ← sub_mul, Int.sign_mul,
    Int.sign_eq_one_of_pos hunit, mul_one]

/-- An infinity is further out than all that is finite, and away from the other infinity. -/
theorem hasSign_infinity {s : Sign} {n : Int}
    (hn : |n| < limit ∨ n = multipleOf (.infinity (-s))) :
    HasSign (.infinity s) (multipleOf (.infinity s) - n) := by
  have hpos := limit_pos
  refine ⟨nofun, ?_⟩
  cases s with
  | negative =>
    have hle : -(limit : Int) < n := hn.elim (fun h => (abs_lt.mp h).1) fun h => by
      have h : n = limit := h
      omega
    show (-(limit : Int)).sign = (-(limit : Int) - n).sign
    rw [Int.sign_eq_neg_one_of_neg (by omega), Int.sign_eq_neg_one_of_neg (by omega)]
  | positive =>
    have hle : n < limit := hn.elim (fun h => (abs_lt.mp h).2) fun h => by
      have h : n = -limit := h
      omega
    show (limit : Int).sign = ((limit : Int) - n).sign
    rw [Int.sign_eq_one_of_pos hpos, Int.sign_eq_one_of_pos (by omega)]

/-- The difference of an infinity and any other number is the infinity. -/
theorem hasSign_infinity_sub {s : Sign} {v : UnpackedFloat} (hv : Unpacked v)
    (hnumber : v ≠ .notANumber) (hne : v ≠ .infinity s) :
    UnpackedFloat.sub .binary64 (.infinity s) v = .infinity s ∧
      HasSign (.infinity s) (multipleOf (.infinity s) - multipleOf v) := by
  cases v with
  | notANumber => exact absurd rfl hnumber
  | infinity t =>
    cases s <;> cases t
    · exact absurd rfl hne
    · exact ⟨rfl, hasSign_infinity (Or.inr rfl)⟩
    · exact ⟨rfl, hasSign_infinity (Or.inr rfl)⟩
    · exact absurd rfl hne
  | zero t => exact ⟨rfl, hasSign_infinity (Or.inl limit_pos)⟩
  | finite t n e hn => exact ⟨rfl, hasSign_infinity (Or.inl (abs_multipleOf_lt hv nofun))⟩

theorem unpack_pack_infinity (s : Sign) :
    (Float.Model.pack (.infinity s)).unpack = .infinity s := by cases s <;> rfl

/-- A difference with an infinity, on either side, and not of an infinity and itself. -/
theorem hasSign_sub_infinity {s : Sign} {u v : UnpackedFloat} (hu : Unpacked u) (hv : Unpacked v)
    (hu' : u ≠ .notANumber) (hv' : v ≠ .notANumber) (hne : u ≠ v)
    (h : u = .infinity s ∨ v = .infinity s) :
    HasSign (Float.Model.pack (UnpackedFloat.sub .binary64 u v)).unpack
      (multipleOf u - multipleOf v) := by
  rcases h with rfl | rfl
  · obtain ⟨hsub, hsign⟩ := hasSign_infinity_sub hv hv' hne.symm
    rw [hsub, unpack_pack_infinity]
    exact hsign
  · obtain ⟨hsub, hsign⟩ := hasSign_infinity_sub hu hu' hne
    rcases sub_swap .binary64 (.infinity s) u with hswap | ⟨s', t', hs', -⟩
    · rw [hswap, unpack_pack_neg, hsub, unpack_pack_infinity, ← neg_sub]
      exact hsign.neg
    · exact nomatch hsub.symm.trans hs'

/-- The difference of unpacked doubles that are numbers. Only that of an infinity and itself is
undefined. -/
theorem hasSign_sub_unpacked {u v : UnpackedFloat} (hu : Unpacked u) (hv : Unpacked v)
    (hu' : u ≠ .notANumber) (hv' : v ≠ .notANumber) (hpu : (Float.Model.pack u).unpack = u)
    (hpv : (Float.Model.pack v).unpack = v) (hne : ∀ s, ¬ (u = .infinity s ∧ v = .infinity s)) :
    HasSign (Float.Model.pack (UnpackedFloat.sub .binary64 u v)).unpack
      (multipleOf u - multipleOf v) := by
  cases u with
  | notANumber => exact absurd rfl hu'
  | infinity s =>
    exact hasSign_sub_infinity hu hv hu' hv' (fun h => hne s ⟨rfl, h.symm⟩) (Or.inl rfl)
  | zero s =>
    cases v with
    | notANumber => exact absurd rfl hv'
    | infinity t => exact hasSign_sub_infinity hu hv hu' hv' nofun (Or.inr rfl)
    | zero t => cases s <;> cases t <;> exact ⟨nofun, rfl⟩
    | finite t n e hn =>
      have hneg : UnpackedFloat.sub .binary64 (.zero s) (.finite t n e hn) =
          (UnpackedFloat.finite t n e hn).neg := rfl
      rw [hneg, unpack_pack_neg, hpv, multipleOf, zero_sub]
      exact (hasSign_self hv').neg
  | finite s m e hm =>
    cases v with
    | notANumber => exact absurd rfl hv'
    | infinity t => exact hasSign_sub_infinity hu hv hu' hv' nofun (Or.inr rfl)
    | zero t =>
      have hsame : UnpackedFloat.sub .binary64 (.finite s m e hm) (.zero t) =
        .finite s m e hm := rfl
      have hzero : multipleOf (.zero t) = 0 := rfl
      rw [hsame, hpu, hzero, sub_zero]
      exact hasSign_self hu'
    | finite t n e' hn => exact hasSign_sub_finite (hu s m e hm rfl).min (hv t n e' hn rfl).min

/-- **A difference has the sign of the order.** Only the difference of an infinity and itself is no
number. -/
theorem sign_sub (hx : IsNumber x) (hy : IsNumber y) :
    (¬ IsNumber (x - y) ∧ multiple x = multiple y) ∨
      IsNumber (x - y) ∧ (multiple (x - y)).sign = (multiple x - multiple y).sign := by
  by_cases h : ∃ s, x.toModel.unpack = .infinity s ∧ y.toModel.unpack = .infinity s
  · obtain ⟨s, hxs, hys⟩ := h
    have hsub : (x - y).toModel.unpack = .notANumber := by
      show (Float.Model.pack (UnpackedFloat.sub .binary64 x.toModel.unpack y.toModel.unpack)).unpack
        = .notANumber
      rw [hxs, hys]
      cases s <;> rfl
    exact Or.inl ⟨fun hnumber => hnumber hsub, by rw [multiple, multiple, hxs, hys]⟩
  · obtain ⟨hnumber, hsign⟩ := hasSign_sub_unpacked (unpacked_toModel x) (unpacked_toModel y) hx hy
      (unpack_pack_toModel x) (unpack_pack_toModel y) fun s hs => h ⟨s, hs⟩
    exact Or.inr ⟨hnumber, hsign⟩

/-! ## Sums -/

/-- The sum of finite numbers is a number, though it may be infinite. -/
theorem isNumber_add (hx : x.isFinite = true) (hy : y.isFinite = true) : IsNumber (x + y) := by
  have hcx := unpacked_toModel x
  have hcy := unpacked_toModel y
  have hpx := unpack_pack_toModel x
  have hpy := unpack_pack_toModel y
  have hx : x.toModel.unpack.isFinite = true := hx
  have hy : y.toModel.unpack.isFinite = true := hy
  show (Float.Model.pack (UnpackedFloat.add .binary64 x.toModel.unpack y.toModel.unpack)).unpack ≠ _
  generalize x.toModel.unpack = u at *
  generalize y.toModel.unpack = v at *
  match u, hx, v, hy with
  | .zero s, _, .zero t, _ => cases s <;> cases t <;> exact nofun
  | .zero s, _, .finite t n e hn, _ =>
    have hsame : UnpackedFloat.add .binary64 (.zero s) (.finite t n e hn) = .finite t n e hn := rfl
    rw [hsame, hpy]
    exact nofun
  | .finite s m e hm, _, .zero t, _ =>
    have hsame : UnpackedFloat.add .binary64 (.finite s m e hm) (.zero t) = .finite s m e hm := rfl
    rw [hsame, hpx]
    exact nofun
  | .finite s m e hm, _, .finite t n e' hn, _ =>
    exact (hasSign_normalize (le_min (hcx s m e hm rfl).min (hcy t n e' hn rfl).min)).number

/-! ## Products -/

theorem multiple_nonneg (m : Nat) (e : Int) : 0 ≤ (m * 2 ^ (e + 1074).toNat : Int) := by positivity

theorem multipleOf_packComponents_nonneg (e : BitVec 11) (m : BitVec 52) :
    0 ≤ multipleOf (UnpackedFloat.unpack .binary64 (packComponents .binary64 .positive e m)) := by
  unfold UnpackedFloat.unpack
  simp only [unpackExponent_packComponents, unpackMantissa_packComponents,
    unpackSign_packComponents, Sign.ofBitVec_toBitVec]
  split
  · split
    · exact limit_pos.le
    · exact le_rfl
  split
  · split
    · exact le_rfl
    · exact multiple_nonneg _ _
  · exact multiple_nonneg _ _

theorem multipleOf_roundWithAccuracy_nonneg (m : Nat) (e : Int) : 0 ≤ multipleOf
    (Float.Model.pack (roundWithAccuracy .binary64 .positive m e .exact)).unpack := by
  unfold roundWithAccuracy
  simp only
  split
  · exact le_rfl
  · show 0 ≤ multipleOf (UnpackedFloat.unpack .binary64 (UnpackedFloat.pack .binary64 _))
    unfold UnpackedFloat.pack
    simp only
    split
    · exact multipleOf_packComponents_nonneg _ _
    split
    · exact multipleOf_packComponents_nonneg _ _
    · exact multipleOf_packComponents_nonneg _ _

theorem abs_cases (u : UnpackedFloat) : u.abs = u ∨ u.abs = u.neg := by
  cases u with
  | notANumber => exact Or.inl rfl
  | infinity s =>
    cases s with
    | negative => exact Or.inr rfl
    | positive => exact Or.inl rfl
  | zero s =>
    cases s with
    | negative => exact Or.inr rfl
    | positive => exact Or.inl rfl
  | finite s m e hm =>
    cases s with
    | negative => exact Or.inr rfl
    | positive => exact Or.inl rfl

theorem unpack_abs (x : Float) : (Float.abs x).toModel.unpack = x.toModel.unpack.abs := by
  show (Float.Model.pack x.toModel.unpack.abs).unpack = _
  rcases abs_cases x.toModel.unpack with h | h
  · rw [h, unpack_pack_toModel]
  · rw [h, unpack_pack_neg, unpack_pack_toModel]

/-- The product of an absolute value and a number that is not below zero. The sign of a zero is
either one. -/
theorem mul_abs_cases (u : UnpackedFloat) {v : UnpackedFloat} (hv : 0 ≤ multipleOf v) :
    UnpackedFloat.mul .binary64 u.abs v = .notANumber ∨
      UnpackedFloat.mul .binary64 u.abs v = .infinity .positive ∨
      (∃ s, UnpackedFloat.mul .binary64 u.abs v = .zero s) ∨
      ∃ m e, UnpackedFloat.mul .binary64 u.abs v =
        roundWithAccuracy .binary64 .positive m e .exact := by
  cases v with
  | notANumber => cases u <;> exact Or.inl rfl
  | infinity t =>
    cases t with
    | negative => exact absurd hv (not_le.mpr (neg_neg_of_pos limit_pos))
    | positive =>
      cases u with
      | notANumber => exact Or.inl rfl
      | zero s => exact Or.inl rfl
      | infinity s => exact Or.inr (Or.inl rfl)
      | finite s m e hm => exact Or.inr (Or.inl rfl)
  | zero t =>
    cases u with
    | notANumber => exact Or.inl rfl
    | infinity s => exact Or.inl rfl
    | zero s => exact Or.inr (Or.inr (Or.inl ⟨_, rfl⟩))
    | finite s m e hm => exact Or.inr (Or.inr (Or.inl ⟨_, rfl⟩))
  | finite t n e hn =>
    cases t with
    | negative => exact absurd hv (not_le.mpr (neg_neg_of_pos (multiple_pos hn e)))
    | positive =>
      cases u with
      | notANumber => exact Or.inl rfl
      | infinity s => exact Or.inr (Or.inl rfl)
      | zero s => exact Or.inr (Or.inr (Or.inl ⟨_, rfl⟩))
      | finite s m e' hm => exact Or.inr (Or.inr (Or.inr ⟨_, _, rfl⟩))

theorem multiple_abs_mul (x : Float) (hy : 0 ≤ multiple y) : 0 ≤ multiple (Float.abs x * y) := by
  show 0 ≤ multipleOf (Float.Model.pack (UnpackedFloat.mul .binary64 (Float.abs x).toModel.unpack
    y.toModel.unpack)).unpack
  rw [unpack_abs]
  rcases mul_abs_cases x.toModel.unpack hy with h | h | ⟨s, h⟩ | ⟨m, e, h⟩ <;> rw [h]
  · exact le_rfl
  · exact limit_pos.le
  · cases s <;> exact le_rfl
  · exact multipleOf_roundWithAccuracy_nonneg m e

end Quantities.Number
