import Mathlib.Algebra.BigOperators.Ring.List
import Mathlib.Algebra.Order.BigOperators.Group.List
import Mathlib.Tactic.Ring
import Quantities.Dimension.Derived

/-!
# The group of dimensions

Products, quotients and powers of dimensions are those of a free abelian group with one generator
for each base dimension. `dimensionality` is its word length: the least number of base dimensions
and reciprocals of base dimensions that make up a dimension.

Results:
* `Dimension` is a `CommGroup`, whose integer power is the power of `Dimension/Basic.lean`;
* `exponent_prod`: the exponents of a product of many dimensions are sums of exponents;
* `exists_sign_dimensionality_lt`: where an exponent is not zero, the base dimension or its
  reciprocal can be taken off, which brings a dimension nearer to `1`;
* `dimensionality_mul_le`, `dimensionality_pow`, `dimensionality_inv`: the dimensionality is a norm;
* `two_mul_dimensionality_le`: multiplying and dividing by one dimension cannot both bring a
  dimension nearer to `1`.
-/

namespace Quantities

theorem BaseDimension.mem_all (b : BaseDimension) : b ∈ all := by cases b <;> decide

namespace Dimension

instance : CommGroup Dimension where
  mul_assoc d e f := ext_exponent fun b => by simp only [exponent_mul]; ring
  one_mul d := ext_exponent fun b => by simp only [exponent_mul, exponent_one]; ring
  mul_one d := ext_exponent fun b => by simp only [exponent_mul, exponent_one]; ring
  mul_comm d e := ext_exponent fun b => by simp only [exponent_mul]; ring
  inv_mul_cancel d := ext_exponent fun b => by
    simp only [exponent_mul, exponent_inv, exponent_one]; ring
  div_eq_mul_inv d e := ext_exponent fun b => by
    simp only [exponent_div, exponent_mul, exponent_inv]; ring
  zpow n d := d ^ n
  zpow_zero' d := ext_exponent fun b => by simp only [exponent_pow, exponent_one]; ring
  zpow_succ' n d := ext_exponent fun b => by
    simp only [exponent_pow, exponent_mul]; push_cast; ring
  zpow_neg' n d := ext_exponent fun b => by
    simp only [exponent_pow, exponent_inv, Int.negSucc_eq]; push_cast; ring

/-- The exponents of a product are sums of exponents. -/
theorem exponent_prod (ds : List Dimension) (b : BaseDimension) :
    ds.prod.exponent b = (ds.map fun d => d.exponent b).sum := by
  induction ds with
  | nil => simp
  | cons d ds ih => rw [List.prod_cons, exponent_mul, ih, List.map_cons, List.sum_cons]

/-- Only the first power of a base dimension occurs in it. -/
theorem exponent_base (b c : BaseDimension) : (base b).exponent c = if c = b then 1 else 0 :=
  exponent_ofExponents _ c

/-- The dimensionality is a sum over the base dimensions. -/
theorem dimensionality_eq_sum (d : Dimension) :
    d.dimensionality = (BaseDimension.all.map fun b => (d.exponent b).natAbs).sum := by
  simp only [dimensionality, BaseDimension.all, List.map_cons, List.map_nil, List.sum_cons,
    List.sum_nil, exponent]
  omega

/-- A dimension that is smaller in one exponent and equal in all others has less dimensionality. -/
theorem dimensionality_lt {d e : Dimension} {b : BaseDimension}
    (hb : (d.exponent b).natAbs < (e.exponent b).natAbs)
    (hc : ∀ c, c ≠ b → d.exponent c = e.exponent c) : d.dimensionality < e.dimensionality := by
  rw [dimensionality_eq_sum, dimensionality_eq_sum]
  have hle : ∀ c ∈ BaseDimension.all, (d.exponent c).natAbs ≤ (e.exponent c).natAbs := by
    intro c _
    by_cases h : c = b
    · rw [h]; exact hb.le
    · rw [hc c h]
  exact List.sum_lt_sum _ _ hle ⟨b, b.mem_all, hb⟩

/-- **A base dimension can be taken off.** Where an exponent is not zero, dividing by that base
dimension or by its reciprocal leaves less dimensionality. -/
theorem exists_sign_dimensionality_lt {d : Dimension} {b : BaseDimension} (h : d.exponent b ≠ 0) :
    ∃ s : Int, (s = -1 ∨ s = 1) ∧ (d / base b ^ s).dimensionality < d.dimensionality := by
  have hexp : ∀ (s : Int) (c : BaseDimension), (d / base b ^ s).exponent c =
      d.exponent c - (if c = b then 1 else 0) * s := fun s c => by
    rw [exponent_div, exponent_pow, exponent_base]
  rcases lt_or_gt_of_ne h with hneg | hpos
  · refine ⟨-1, Or.inl rfl, dimensionality_lt (b := b) ?_ fun c hc => ?_⟩
    · rw [hexp, if_pos rfl]; omega
    · rw [hexp, if_neg hc]; omega
  · refine ⟨1, Or.inr rfl, dimensionality_lt (b := b) ?_ fun c hc => ?_⟩
    · rw [hexp, if_pos rfl]; omega
    · rw [hexp, if_neg hc]; omega

/-! ## The norm -/

variable (d e : Dimension)

/-- A product has no more dimensionality than its factors together. -/
theorem dimensionality_mul_le : (d * e).dimensionality ≤ d.dimensionality + e.dimensionality := by
  simp only [dimensionality_eq_sum, exponent_mul, ← List.sum_map_add]
  exact List.sum_le_sum fun b _ => Int.natAbs_add_le _ _

/-- A power has the dimensionality as often as the power says. -/
theorem dimensionality_pow (n : Int) : (d ^ n).dimensionality = d.dimensionality * n.natAbs := by
  simp only [dimensionality_eq_sum, exponent_pow, Int.natAbs_mul, List.sum_map_mul_right]

@[simp] theorem dimensionality_inv : d⁻¹.dimensionality = d.dimensionality := by
  have h := dimensionality_pow d (-1)
  rwa [zpow_neg_one, Int.natAbs_neg, Int.natAbs_one, mul_one] at h

/-- **A step and its reverse.** Multiplying and dividing by the same dimension do not both lead
nearer to `1`: what one of them takes off, the other one adds at least. -/
theorem two_mul_dimensionality_le :
    2 * d.dimensionality ≤ (d * e).dimensionality + (d / e).dimensionality := by
  have hsquare : d * e * (d / e) = d ^ (2 : Int) := by
    rw [zpow_two, mul_assoc, mul_div_cancel]
  calc 2 * d.dimensionality = (d ^ (2 : Int)).dimensionality := by
        rw [dimensionality_pow, mul_comm]; rfl
    _ = (d * e * (d / e)).dimensionality := by rw [hsquare]
    _ ≤ (d * e).dimensionality + (d / e).dimensionality := dimensionality_mul_le _ _

end Dimension

end Quantities
