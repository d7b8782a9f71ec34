import Quantities.Proofs.Number.Difference
import Quantities.Quantity.Compare

/-!
# The order of two doubles

Two doubles are ordered by their difference, which is rounded, and by a tolerance. The laws that
hold of every order nevertheless hold, as differences keep their signs, but those that put a
tolerance on both sides of zero need one that is not below it.

* `orderOf_of_isNumber`, `orderOf_of_not_isNumber`: the order is that of multiples, and what is
  undefined is equal to everything. `orderOf_gt`, `orderOf_lt` and `orderOf_eq_iff` are its three
  answers.
* `orderOf_sub_self`, `orderOf_sub_swap`: a number is equal to itself, and two numbers are ordered
  the other way round as their difference is taken.
* `orderOf_of_le`: a greater tolerance takes nothing for unequal that a smaller one takes for equal,
  and turns no order round.
* `orderOf_sub_zero`: without tolerance, numbers are in the order of their multiples.
-/

namespace Quantities.Quantity

open Number

variable {d t t' x y : Float}

theorem scalar_lt_iff : Scalar.lt x y = true ↔ IsNumber x ∧ IsNumber y ∧ multiple x < multiple y :=
  decide_eq_true_iff.trans lt_iff

/-- The order of numbers is that of multiples. -/
theorem orderOf_of_isNumber (hd : IsNumber d) (ht : IsNumber t) : orderOf d t =
    if multiple d < -multiple t then .gt else if multiple t < multiple d then .lt else .eq := by
  unfold orderOf
  simp only [scalar_lt_iff, isNumber_neg, multiple_neg, hd, ht, true_and]

/-- What is undefined is equal to everything. -/
theorem orderOf_of_not_isNumber (h : ¬ (IsNumber d ∧ IsNumber t)) : orderOf d t = .eq := by
  have hgt : ¬ Scalar.lt d (-t) = true := fun hlt => by
    obtain ⟨hd, ht, -⟩ := scalar_lt_iff.mp hlt
    exact h ⟨hd, isNumber_neg.mp ht⟩
  have hlt : ¬ Scalar.lt t d = true := fun hlt => by
    obtain ⟨ht, hd, -⟩ := scalar_lt_iff.mp hlt
    exact h ⟨hd, ht⟩
  rw [orderOf, if_neg hgt, if_neg hlt]

theorem orderOf_gt (hd : IsNumber d) (ht : IsNumber t) (h : multiple d < -multiple t) :
    orderOf d t = .gt := by
  rw [orderOf_of_isNumber hd ht, if_pos h]

theorem orderOf_lt (hd : IsNumber d) (ht : IsNumber t) (hzero : 0 ≤ multiple t)
    (h : multiple t < multiple d) : orderOf d t = .lt := by
  rw [orderOf_of_isNumber hd ht, if_neg (by omega), if_pos h]

theorem orderOf_eq_iff (hd : IsNumber d) (ht : IsNumber t) : orderOf d t = .eq ↔
    -multiple t ≤ multiple d ∧ multiple d ≤ multiple t := by
  rw [orderOf_of_isNumber hd ht]
  split_ifs with hgt hlt
  · exact ⟨nofun, fun h => absurd hgt (not_lt.mpr h.1)⟩
  · exact ⟨nofun, fun h => absurd hlt (not_lt.mpr h.2)⟩
  · exact ⟨fun _ => ⟨not_lt.mp hgt, not_lt.mp hlt⟩, fun _ => rfl⟩

/-! ## Differences -/

/-- A number is equal to itself. -/
theorem orderOf_sub_self (x : Float) (ht : ¬ t < 0) : orderOf (x - x) t = .eq := by
  have hzero : multiple (x - x) = 0 := by
    have := multiple_sub_swap x x
    omega
  have ht := not_lt_zero_iff.mp ht
  by_cases h : IsNumber (x - x) ∧ IsNumber t
  · exact (orderOf_eq_iff h.1 h.2).mpr ⟨by omega, by omega⟩
  · exact orderOf_of_not_isNumber h

/-- Two numbers are ordered the other way round as their difference is taken. -/
theorem orderOf_sub_swap (x y : Float) (ht : ¬ t < 0) :
    orderOf (x - y) t = (orderOf (y - x) t).swap := by
  have ht := not_lt_zero_iff.mp ht
  have hswap := multiple_sub_swap x y
  by_cases h : IsNumber (x - y) ∧ IsNumber t
  · obtain ⟨hxy, hnumber⟩ := h
    have hyx : IsNumber (y - x) := isNumber_sub_swap.mpr hxy
    rcases lt_or_ge (multiple (y - x)) (-multiple t) with hgt | hge
    · rw [orderOf_gt hyx hnumber hgt, orderOf_lt hxy hnumber ht (by omega)]
      rfl
    rcases lt_or_ge (multiple t) (multiple (y - x)) with hlt | hle
    · rw [orderOf_lt hyx hnumber ht hlt, orderOf_gt hxy hnumber (by omega)]
      rfl
    · rw [(orderOf_eq_iff hyx hnumber).mpr ⟨hge, hle⟩,
        (orderOf_eq_iff hxy hnumber).mpr ⟨by omega, by omega⟩]
      rfl
  · have h' : ¬ (IsNumber (y - x) ∧ IsNumber t) := by rwa [isNumber_sub_swap]
    rw [orderOf_of_not_isNumber h, orderOf_of_not_isNumber h']
    rfl

/-- Without tolerance, numbers are in the order of their multiples. -/
theorem orderOf_sub_zero (hx : IsNumber x) (hy : IsNumber y) :
    orderOf (y - x) 0 = Ord.compare (multiple x) (multiple y) := by
  rcases sign_sub hy hx with ⟨hnot, heq⟩ | ⟨hnumber, hsign⟩
  -- An infinity less itself is undefined, and so counts as equal after all.
  · rw [orderOf_of_not_isNumber fun h => hnot h.1, heq, compare_eq_iff_eq.mpr rfl]
  · have hzero := multiple_zero
    rcases lt_trichotomy (multiple x) (multiple y) with h | h | h
    · have hpos : 0 < multiple (y - x) := by
        rw [← Int.sign_eq_one_iff_pos, hsign, Int.sign_eq_one_of_pos (by omega)]
      rw [orderOf_lt hnumber isNumber_zero (by omega) (by omega), compare_lt_iff_lt.mpr h]
    · have hnone : multiple (y - x) = 0 := by
        rw [← Int.sign_eq_zero_iff_zero, hsign, h, sub_self, Int.sign_zero]
      rw [(orderOf_eq_iff hnumber isNumber_zero).mpr ⟨by omega, by omega⟩,
        compare_eq_iff_eq.mpr h]
    · have hneg : multiple (y - x) < 0 := by
        rw [← Int.sign_eq_neg_one_iff_neg, hsign, Int.sign_eq_neg_one_of_neg (by omega)]
      rw [orderOf_gt hnumber isNumber_zero (by omega), compare_gt_iff_gt.mpr h]

/-! ## Tolerances -/

/-- What is equal within a tolerance is equal within a greater one. -/
theorem orderOf_eq_of_le (h : t ≤ t') (heq : orderOf d t = .eq) : orderOf d t' = .eq := by
  obtain ⟨ht, ht', hle⟩ := le_iff.mp h
  by_cases hd : IsNumber d
  · obtain ⟨hlow, hhigh⟩ := (orderOf_eq_iff hd ht).mp heq
    exact (orderOf_eq_iff hd ht').mpr ⟨by omega, by omega⟩
  · exact orderOf_of_not_isNumber fun h => hd h.1

/-- A greater tolerance keeps an order, or takes the numbers for equal. -/
theorem orderOf_of_le (h : t ≤ t') (hzero : ¬ t < 0) :
    orderOf d t' = orderOf d t ∨ orderOf d t' = .eq := by
  obtain ⟨ht, ht', hle⟩ := le_iff.mp h
  have hzero := not_lt_zero_iff.mp hzero
  by_cases hd : IsNumber d
  swap
  · exact Or.inr (orderOf_of_not_isNumber fun h => hd h.1)
  rcases lt_or_ge (multiple d) (-multiple t') with hgt | hge
  · exact Or.inl (by rw [orderOf_gt hd ht' hgt, orderOf_gt hd ht (by omega)])
  rcases lt_or_ge (multiple t') (multiple d) with hlt | hle'
  · exact Or.inl (by rw [orderOf_lt hd ht' (by omega) hlt, orderOf_lt hd ht hzero (by omega)])
  · exact Or.inr ((orderOf_eq_iff hd ht').mpr ⟨hge, hle'⟩)

end Quantities.Quantity
