import Quantities.Proofs.Dimension.Writable
import Quantities.Value.Dimensions

/-!
# Roots of dimensions

A dimension has a root of a positive degree when the degree divides all exponents. As the group of
dimensions is free, it has no more than one, so taking roots undoes taking powers.

* `root?_eq_some_iff`: the root is the dimension whose power is given.
* `root?_mul`: the root of a product of degrees is the root of a root.
* `rootBy_integer`: what is answered and what is refused for a degree that is an integer.
* **`module_norm_root`**: the laws of products, powers, sizes and roots together.
-/

namespace Quantities.Dimension

variable {d e r : Dimension} {n : Int}

/-! ## Divided exponents -/

theorem root?_of_dvd (hn : n ≠ 0) (h : ∀ b, n ∣ d.exponent b) :
    d.root? n = some (ofExponents fun b => d.exponent b / n) := by
  have hall : d.toList.all (fun e => e % n == 0) = true :=
    all_toList.mpr fun b => beq_iff_eq.mpr (Int.emod_eq_zero_of_dvd (h b))
  unfold root?
  rw [if_pos ⟨hn, hall⟩]

theorem root?_of_not_dvd (h : ¬ ∀ b, n ∣ d.exponent b) : d.root? n = none := by
  unfold root?
  refine if_neg fun ⟨_, hall⟩ => h fun b => ?_
  exact Int.dvd_of_emod_eq_zero (beq_iff_eq.mp (all_toList.mp hall b))

/-- A power with an exponent other than zero is a power of one dimension only. -/
theorem pow_left_injective (hn : n ≠ 0) (h : d ^ n = e ^ n) : d = e := by
  refine ext_exponent fun b => Int.eq_of_mul_eq_mul_right hn ?_
  rw [← exponent_pow, ← exponent_pow, h]

/-- **The root is the dimension whose power is given.** -/
theorem root?_eq_some_iff (hn : n ≠ 0) : d.root? n = some r ↔ r ^ n = d := by
  constructor
  · intro h
    by_cases hdvd : ∀ b, n ∣ d.exponent b
    · rw [root?_of_dvd hn hdvd] at h
      obtain rfl := Option.some.inj h
      refine ext_exponent fun b => ?_
      rw [exponent_pow, exponent_ofExponents, Int.ediv_mul_cancel (hdvd b)]
    · rw [root?_of_not_dvd hdvd] at h
      exact nomatch h
  · rintro rfl
    have hdvd : ∀ b, n ∣ (r ^ n).exponent b := fun b => by
      rw [exponent_pow]
      exact Int.dvd_mul_left (r.exponent b) n
    rw [root?_of_dvd hn hdvd]
    refine congrArg some (ext_exponent fun b => ?_)
    rw [exponent_ofExponents, exponent_pow, Int.mul_ediv_cancel _ hn]

theorem root?_eq_none_iff (hn : n ≠ 0) : d.root? n = none ↔ ∀ r, r ^ n ≠ d := by
  rw [Option.eq_none_iff_forall_ne_some]
  exact forall_congr' fun r => not_congr (root?_eq_some_iff hn)

/-- The root of a product of degrees is the root of a root. -/
theorem root?_mul {a b : Int} (ha : a ≠ 0) (hb : b ≠ 0) :
    d.root? (a * b) = some r ↔ ∃ c, d.root? a = some c ∧ c.root? b = some r := by
  rw [root?_eq_some_iff (mul_ne_zero ha hb)]
  constructor
  · rintro rfl
    refine ⟨r ^ b, (root?_eq_some_iff ha).mpr ?_, (root?_eq_some_iff hb).mpr rfl⟩
    rw [← zpow_mul, mul_comm]
  · rintro ⟨c, hc, hr⟩
    rw [← (root?_eq_some_iff ha).mp hc, ← (root?_eq_some_iff hb).mp hr, ← zpow_mul, mul_comm]

/-! ## Degrees that are integers -/

/-- The root of a positive degree, or the refusal of a fractional dimension. -/
theorem rootBy_integer (d : Dimension) (hn : n ≠ 0) : d.rootBy (.integer n) =
    match d.root? n with
    | some r => .ok r
    | none => .error (.showing (n :: d.toList) (.fractionalRoot (Number.intText n) d)) := by
  have hstep : d.rootBy (.integer n) = rootBy.rootByInteger d (.integer n) n := rfl
  rw [hstep, rootBy.rootByInteger, if_neg hn]
  rfl

theorem rootBy_ok (hn : n ≠ 0) : d.rootBy (.integer n) = .ok r ↔ r ^ n = d := by
  rw [rootBy_integer d hn, ← root?_eq_some_iff hn]
  cases d.root? n with
  | none => exact ⟨nofun, nofun⟩
  | some c =>
    exact ⟨fun h => congrArg some (Except.ok.inj h), fun h => congrArg _ (Option.some.inj h)⟩

theorem rootBy_error (hn : n ≠ 0) (h : ∀ r, r ^ n ≠ d) :
    d.rootBy (.integer n) =
      .error (.showing (n :: d.toList) (.fractionalRoot (Number.intText n) d)) := by
  rw [rootBy_integer d hn, (root?_eq_none_iff hn).mpr h]

/-- **Dimensions as a module with a norm, and their roots.** Products, quotients, reciprocals and
integer powers obey the laws of a module over the integers, and the dimensionality those of a norm
on it. The root of a positive degree is the one dimension whose power is given, or else it is
refused, with the degree and the dimension shown; and the root of a product of degrees is taken in
two steps, with the same answer. -/
theorem module_norm_root (d e f : Dimension) (a b : Int) :
    (d * e * f = d * (e * f) ∧ d * e = e * d ∧ d * 1 = d ∧ d * d⁻¹ = 1 ∧ d / e = d * e⁻¹ ∧
      d * e / e = d) ∧
    ((d ^ a) ^ b = d ^ (a * b) ∧ d ^ a * d ^ b = d ^ (a + b) ∧ (d * e) ^ a = d ^ a * e ^ a ∧
      d ^ (1 : Int) = d ∧ d ^ (0 : Int) = 1 ∧ d⁻¹ = d ^ (-1 : Int)) ∧
    ((d.dimensionality = 0 ↔ d = 1) ∧ (d ^ a).dimensionality = a.natAbs * d.dimensionality ∧
      (d * e).dimensionality ≤ d.dimensionality + e.dimensionality) ∧
    (1 ≤ a →
      ((∃ r, d.rootBy (.integer a) = .ok r) ↔ ∃ r, r ^ a = d) ∧
      (∀ r, d.rootBy (.integer a) = .ok r → ∀ r', r' ^ a = d ↔ r' = r) ∧
      ((∀ r, r ^ a ≠ d) →
        d.rootBy (.integer a) =
          .error (.showing (a :: d.toList) (.fractionalRoot (Number.intText a) d))) ∧
      (d ^ a).rootBy (.integer a) = .ok d) ∧
    (1 ≤ a → 1 ≤ b → ∀ r, d.rootBy (.integer (a * b)) = .ok r ↔
      ∃ c, d.rootBy (.integer a) = .ok c ∧ c.rootBy (.integer b) = .ok r) := by
  refine ⟨⟨mul_assoc d e f, mul_comm d e, mul_one d, mul_inv_cancel d, div_eq_mul_inv d e,
      mul_div_cancel_right d e⟩,
    ⟨(zpow_mul d a b).symm, (zpow_add d a b).symm, mul_zpow d e a, zpow_one d, zpow_zero d,
      (zpow_neg_one d).symm⟩,
    ⟨dimensionality_eq_zero_iff, ?_, dimensionality_mul_le d e⟩, fun ha => ?_, fun ha hb r => ?_⟩
  · rw [dimensionality_pow, mul_comm]
  · have ha : a ≠ 0 := by omega
    refine ⟨exists_congr fun r => rootBy_ok ha, fun r hr r' => ⟨fun h => ?_, ?_⟩, rootBy_error ha,
      (rootBy_ok ha).mpr rfl⟩
    · exact pow_left_injective ha (h.trans ((rootBy_ok ha).mp hr).symm)
    · rintro rfl
      exact (rootBy_ok ha).mp hr
  · have ha : a ≠ 0 := by omega
    have hb : b ≠ 0 := by omega
    rw [rootBy_ok (mul_ne_zero ha hb), ← root?_eq_some_iff (mul_ne_zero ha hb), root?_mul ha hb]
    refine exists_congr fun c => and_congr ?_ ?_
    · rw [rootBy_ok ha, root?_eq_some_iff ha]
    · rw [rootBy_ok hb, root?_eq_some_iff hb]

/-- The sixth power of a length over the twelfth power of a time has a third root, and the square
root of that is the sixth root. It has no fourth root. -/
theorem module_norm_root_length :
    let d : Dimension := base .length ^ (6 : Int) / base .time ^ (12 : Int)
    let c : Dimension := base .length ^ (2 : Int) / base .time ^ (4 : Int)
    let r : Dimension := base .length / base .time ^ (2 : Int)
    ((1 : Int) ≤ 3 ∧ (1 : Int) ≤ 2) ∧
    (d.rootBy (.integer 3) = .ok c ∧ c.rootBy (.integer 2) = .ok r ∧
      d.rootBy (.integer (3 * 2)) = .ok r) ∧
    d.rootBy (.integer 4) = .error (.fractionalRoot "4" d) := by
  intro d c r
  have hthree : (1 : Int) ≤ 3 := by decide
  have htwo : (1 : Int) ≤ 2 := by decide
  have hroot : d.rootBy (.integer 3) = .ok c := by decide
  have hsquare : c.rootBy (.integer 2) = .ok r := by decide
  have hnone : ∀ s : Dimension, s ^ (4 : Int) ≠ d := fun s hs => by
    have hlength := congrArg (exponent · .length) hs
    have hd : d.exponent .length = 6 := by decide
    simp only [exponent_pow, hd] at hlength
    omega
  obtain ⟨-, -, -, -, htwice⟩ := module_norm_root d 1 1 3 2
  obtain ⟨-, -, -, hfour, -⟩ := module_norm_root d 1 1 4 2
  have hshown : Failure.showing (4 :: d.toList) (.fractionalRoot "4" d) = .fractionalRoot "4" d := by
    decide +kernel
  exact ⟨⟨hthree, htwo⟩, ⟨hroot, hsquare, (htwice hthree htwo r).mpr ⟨c, hroot, hsquare⟩⟩,
    ((hfour (by decide)).2.2.1 hnone).trans (congrArg _ hshown)⟩

end Quantities.Dimension
