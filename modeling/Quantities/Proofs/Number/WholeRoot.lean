import Mathlib.Data.Nat.Sqrt
import Mathlib.Tactic.Ring
import Quantities.Number.Approx

/-!
# Square roots of natural numbers

The square root of a natural number is found bit by bit and rounded down. The natural number nearest
to it is told by that, and so it is by a square root with more bits: there is no square root of a
natural number halfway between two.

* `floorSqrt_eq`: the bits are those of the square root;
* `sqrt_four_mul`: what the last bit tells;
* `nearestSqrt`: the nearest natural number;
* `nearestQuotient_sqrt`, `nearestQuotient_sqrt_add`: it is found by rounding a square root with
  more bits, whether that is exact or cut.
-/

namespace Quantities.Number

variable {n d i : Nat}

/-! ## Whole square roots -/

/-- The last bit of a square root, after those of the square root of a quarter. -/
theorem sqrt_quarter (n : Nat) :
    2 * Nat.sqrt (n / 4) ≤ Nat.sqrt n ∧ Nat.sqrt n ≤ 2 * Nat.sqrt (n / 4) + 1 := by
  have hle := Nat.sqrt_le (n / 4)
  have hlt := Nat.lt_succ_sqrt (n / 4)
  generalize Nat.sqrt (n / 4) = s at hle hlt
  rw [Nat.succ_eq_add_one] at hlt
  have hlower : 2 * s * (2 * s) = 4 * (s * s) := by ring
  have hupper : (2 * s + 2) * (2 * s + 2) = 4 * ((s + 1) * (s + 1)) := by ring
  refine ⟨Nat.le_sqrt.mpr (by omega), Nat.lt_succ_iff.mp (Nat.sqrt_lt.mpr ?_)⟩
  rw [Nat.succ_eq_add_one, hupper]
  omega

theorem floorSqrtBelow_eq : ∀ {fuel n : Nat}, n < 4 ^ fuel → floorSqrtBelow fuel n = Nat.sqrt n
  | 0, n, h => by
    obtain rfl : n = 0 := by simpa using h
    rfl
  | fuel + 1, n, h => by
    obtain ⟨hlower, hupper⟩ := sqrt_quarter n
    rw [floorSqrtBelow, floorSqrtBelow_eq (by omega : n / 4 < 4 ^ fuel)]
    split
    · rename_i hbit
      exact le_antisymm (Nat.le_sqrt.mpr hbit) hupper
    · rename_i hbit
      exact le_antisymm hlower (Nat.lt_succ_iff.mp (Nat.sqrt_lt.mpr (not_le.mp hbit)))

theorem floorSqrt_eq (n : Nat) : floorSqrt n = Nat.sqrt n := by
  refine floorSqrtBelow_eq ?_
  calc n < 2 ^ (n.log2 + 1) := Nat.lt_log2_self
    _ ≤ 4 ^ (n.log2 + 1) := Nat.pow_le_pow_left (by decide) _

/-- A square root without its last bit is exact as long as that bit is none. -/
theorem sqrt_four_mul (n : Nat) : Nat.sqrt (4 * n) / 2 = Nat.sqrt n ∧
    (Nat.sqrt (4 * n) * Nat.sqrt (4 * n) = 4 * n ∧ Nat.sqrt (4 * n) % 2 = 0 ↔
      Nat.sqrt n * Nat.sqrt n = n) := by
  obtain ⟨hlower, hupper⟩ := sqrt_quarter (4 * n)
  rw [Nat.mul_div_cancel_left n (by decide)] at hlower hupper
  have hself := Nat.sqrt_le (4 * n)
  generalize Nat.sqrt n = s at hlower hupper
  have heven : 2 * s * (2 * s) = 4 * (s * s) := by ring
  have hodd : (2 * s + 1) * (2 * s + 1) = 4 * (s * s) + 4 * s + 1 := by ring
  obtain hr | hr : Nat.sqrt (4 * n) = 2 * s ∨ Nat.sqrt (4 * n) = 2 * s + 1 := by omega
  · rw [hr, heven]
    omega
  · rw [hr, hodd] at hself ⊢
    omega

/-- The natural number nearest to the square root of `n`. Halfway between two natural numbers there
is no square root of one. -/
def nearestSqrt (n : Nat) : Nat :=
  if n - Nat.sqrt n * Nat.sqrt n ≤ Nat.sqrt n then Nat.sqrt n else Nat.sqrt n + 1

theorem nearestSqrt_bounds (hn : 0 < n) :
    nearestSqrt n * nearestSqrt n < n + nearestSqrt n ∧
      n ≤ nearestSqrt n * nearestSqrt n + nearestSqrt n := by
  have hle := Nat.sqrt_le n
  have hlt := Nat.lt_succ_sqrt n
  have hpos := Nat.sqrt_pos.mpr hn
  unfold nearestSqrt
  generalize Nat.sqrt n = s at hle hlt hpos
  have hsquare : (s + 1) * (s + 1) = s * s + s + (s + 1) := by ring
  rw [Nat.succ_eq_add_one, hsquare] at hlt
  split
  · omega
  · rw [hsquare]
    omega

/-! ## Rounding -/

/-- A quotient less than half a unit away from a natural number. -/
theorem nearestQuotient_eq (hlower : (2 * i + 1) * d < 2 * n) (hupper : 2 * n < (2 * i + 3) * d) :
    nearestQuotient n d = i + 1 := by
  have hd : 0 < d := by
    rcases Nat.eq_zero_or_pos d with rfl | hd
    · omega
    · exact hd
  have hodd : (2 * i + 1) * d = 2 * (i * d) + d := by ring
  have hodd' : (2 * i + 3) * d = 2 * (i * d) + 3 * d := by ring
  rw [hodd] at hlower
  rw [hodd'] at hupper
  have hr := Nat.div_add_mod' n d
  unfold nearestQuotient
  simp only
  rcases le_or_gt (i * d + d) n with h | h
  · have hq : n / d = i + 1 := by
      rw [Nat.div_eq_iff hd, Nat.succ_mul]
      omega
    rw [hq, Nat.succ_mul] at hr
    rw [hq, if_pos (by omega)]
  · have hq : n / d = i := by
      rw [Nat.div_eq_iff hd]
      omega
    rw [hq] at hr
    rw [hq, if_neg (by omega)]

/-- A square root with more bits than the nearest natural number is less than half a unit away from
that number. -/
theorem sqrt_shifted_bounds (hi : nearestSqrt n = i + 1) (j : Nat) :
    (2 * i + 1) * 2 ^ j ≤ Nat.sqrt (n * 4 ^ (j + 1)) ∧
      (Nat.sqrt (n * 4 ^ (j + 1)) * Nat.sqrt (n * 4 ^ (j + 1)) = n * 4 ^ (j + 1) →
        (2 * i + 1) * 2 ^ j < Nat.sqrt (n * 4 ^ (j + 1))) ∧
      Nat.sqrt (n * 4 ^ (j + 1)) < (2 * i + 3) * 2 ^ j := by
  have hn : 0 < n := by
    rcases Nat.eq_zero_or_pos n with rfl | hn
    · exact nomatch hi
    · exact hn
  obtain ⟨hlower, hupper⟩ := nearestSqrt_bounds hn
  rw [hi] at hlower hupper
  have hpow : 0 < 4 ^ j := Nat.pow_pos (by decide)
  have hfour : 2 ^ j * 2 ^ j = 4 ^ j := (Nat.mul_pow 2 2 j).symm
  have hscaled : n * 4 ^ (j + 1) = 4 * n * 4 ^ j := by ring
  have hsquare : ∀ c : Nat, c * 2 ^ j * (c * 2 ^ j) = c * c * 4 ^ j := fun c => by
    rw [← hfour]
    ring
  have hodd : (2 * i + 1) * (2 * i + 1) = 4 * (i * i) + 4 * i + 1 := by ring
  have hodd' : (2 * i + 3) * (2 * i + 3) = 4 * (i * i) + 12 * i + 9 := by ring
  have hnext : (i + 1) * (i + 1) = i * i + 2 * i + 1 := by ring
  have hbelow : (2 * i + 1) * 2 ^ j * ((2 * i + 1) * 2 ^ j) < n * 4 ^ (j + 1) := by
    rw [hsquare, hscaled]
    exact Nat.mul_lt_mul_of_pos_right (by omega) hpow
  have habove : n * 4 ^ (j + 1) < (2 * i + 3) * 2 ^ j * ((2 * i + 3) * 2 ^ j) := by
    rw [hsquare, hscaled]
    exact Nat.mul_lt_mul_of_pos_right (by omega) hpow
  refine ⟨Nat.le_sqrt.mpr hbelow.le, fun hexact => ?_, Nat.sqrt_lt.mpr habove⟩
  exact Nat.mul_self_lt_mul_self_iff.mp (hbelow.trans_eq hexact.symm)

/-- Rounding a root that is a natural number. -/
theorem nearestQuotient_sqrt (hi : nearestSqrt n = i + 1) (j : Nat)
    (hexact : Nat.sqrt (n * 4 ^ (j + 1)) * Nat.sqrt (n * 4 ^ (j + 1)) = n * 4 ^ (j + 1)) :
    nearestQuotient (Nat.sqrt (n * 4 ^ (j + 1))) (2 ^ (j + 1)) = nearestSqrt n := by
  obtain ⟨-, hlower, hupper⟩ := sqrt_shifted_bounds hi j
  have hlower := hlower hexact
  have hpow : 2 ^ (j + 1) = 2 ^ j * 2 := Nat.pow_succ ..
  rw [hi, hpow]
  refine nearestQuotient_eq ?_ ?_
  · rw [← Nat.mul_assoc]
    omega
  · rw [← Nat.mul_assoc]
    omega

/-- Rounding a root that is cut. What was cut off counts as half a unit. -/
theorem nearestQuotient_sqrt_add (hi : nearestSqrt n = i + 1) (j : Nat) :
    nearestQuotient (2 * Nat.sqrt (n * 4 ^ (j + 1)) + 1) (2 ^ (j + 2)) = nearestSqrt n := by
  obtain ⟨hlower, -, hupper⟩ := sqrt_shifted_bounds hi j
  have hpow : 2 ^ (j + 2) = 2 ^ j * 4 := Nat.pow_add ..
  rw [hi, hpow]
  refine nearestQuotient_eq ?_ ?_
  · rw [← Nat.mul_assoc]
    omega
  · rw [← Nat.mul_assoc]
    omega

theorem log2_two_mul_add_one (hn : n ≠ 0) : (2 * n + 1).log2 = n.log2 + 1 := by
  have hlower := Nat.log2_self_le hn
  have hupper : n < 2 ^ (n.log2 + 1) := Nat.lt_log2_self
  rw [Nat.log2_eq_iff (by omega), Nat.pow_succ, Nat.pow_succ]
  omega

end Quantities.Number
