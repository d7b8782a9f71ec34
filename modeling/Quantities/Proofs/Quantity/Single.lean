import Quantities.Proofs.Dimension.Group
import Quantities.Proofs.Number.Exact
import Quantities.Quantity.Basic

/-!
# Single quantities

A quantity is `Single` when it is one number without an offset. Such quantities can be multiplied,
inverted and raised to every power in range, and stay single.

* `Magnitude.combine_single`, `Magnitude.exists_combine`: one number combines with one number to one
  number, and with every magnitude to some magnitude;
* `Single.multiply`, `Single.invert`, `Single.power`: what the operations answer.
-/

namespace Quantities

/-! ## One number -/

namespace Magnitude

variable {β : Type}

/-- Two magnitudes of one number each combine to one number. -/
theorem combine_single {f : β → β → β} {a b : Magnitude β} {x y : β} (ha : a.members = [x])
    (hb : b.members = [y]) : ∃ m, combine f a b = .ok m ∧ m.members = [f x y] := by
  cases a <;> cases b <;> simp only [members, List.cons.injEq, and_true] at ha hb <;> subst ha hb
    <;> exact ⟨_, rfl, rfl⟩

/-- Every magnitude combines with one number. -/
theorem exists_combine {f : β → β → β} {a b : Magnitude β} {y : β} (hb : b.members = [y]) :
    ∃ m, combine f a b = .ok m := by
  have hlen : b.length = 1 := by rw [length, hb]; rfl
  unfold combine
  split
  · exact ⟨_, rfl⟩
  · rw [checkLengths, if_pos (Or.inr (Or.inr hlen))]
    exact ⟨_, rfl⟩

end Magnitude

/-! ## Products and powers -/

namespace Quantity

variable {α : Type} [Scalar α]

/-- One number of a dimension, without an offset. -/
structure Single (q : Quantity α) (x : α) (d : Dimension) : Prop where
  members : q.magnitude.members = [x]
  dimension : q.dimension = d
  hasOffset : q.hasOffset = false

variable [Scalar.Grounded α] {q r : Quantity α} {x y : α} {d e : Dimension}

theorem hasOffset_of_zero (h : q.offset = 0) : q.hasOffset = false := by
  rw [hasOffset, h]
  exact Scalar.Grounded.zero_bne

theorem single_unity : (unity : Quantity α).Single 1 1 := ⟨rfl, rfl, hasOffset_of_zero rfl⟩

theorem Single.multiply (hq : q.Single x d) (hr : r.Single y e) :
    ∃ p, q.multiply r = .ok p ∧ p.Single (x * y) (d * e) ∧ p.offset = 0 := by
  obtain ⟨m, hm, hmem⟩ := Magnitude.combine_single (f := (· * ·)) hq.members hr.members
  refine ⟨plain m (q.dimension * r.dimension), ?_, ⟨hmem, ?_, hasOffset_of_zero rfl⟩, rfl⟩
  · rw [Quantity.multiply, hq.hasOffset, hr.hasOffset, hm]
    rfl
  · rw [← hq.dimension, ← hr.dimension]
    rfl

theorem Single.invert (hq : q.Single x d) :
    ∃ p, q.invert = .ok p ∧ p.Single (1 / x) d⁻¹ := by
  refine ⟨plain (q.magnitude.map fun x => 1 / x) q.dimension⁻¹, ?_, ?_, ?_, hasOffset_of_zero rfl⟩
  · rw [Quantity.invert, hq.hasOffset]
    rfl
  · simp [plain, hq.members]
  · rw [← hq.dimension]
    rfl

/-- The number that a power of a number is. -/
def powerOf (x : α) (n : Int) : α := if n = 0 then 1 else if n = 1 then x else Scalar.pow x n

theorem Single.power {n : Int} (hq : q.Single x d) (hn : n = 1 ∨ n.natAbs < Number.integerLimit) :
    ∃ p, q.power n = .ok p ∧ p.Single (powerOf x n) (d ^ n) := by
  unfold Quantity.power powerOf
  simp only [hq.hasOffset, Bool.false_and, Bool.false_eq_true, if_false]
  by_cases h0 : n = 0
  · refine ⟨_, if_pos h0, ?_, ?_, hasOffset_of_zero rfl⟩
    · simp [number, Magnitude.ones, hq.members, h0]
    · rw [h0, zpow_zero]
      rfl
  by_cases h1 : n = 1
  · rw [if_neg h0, if_pos h1, if_neg h0, if_pos h1, h1, zpow_one]
    exact ⟨q, rfl, hq⟩
  · have hlt : ¬ Number.integerLimit ≤ n.natAbs := not_le.mpr (hn.resolve_left h1)
    rw [if_neg h0, if_neg h1, if_neg hlt, if_neg h0, if_neg h1]
    refine ⟨_, rfl, ?_, ?_, hasOffset_of_zero rfl⟩
    · simp [plain, Magnitude.pow, hq.members]
    · rw [← hq.dimension]
      rfl

end Quantity

end Quantities
