import Mathlib.Algebra.Order.Field.Rat
import Quantities.Number.Scalar

/-!
# Exact numbers

The rationals are a kind of number that quantities can be built over. They never round, so what is
shown for them is what the operations mean.

`Scalar.Grounded` says the one thing about numbers that all other statements rest on: zero is not
other than zero. Doubles have it, too.
-/

namespace Quantities

instance : Scalar ℚ where
  lt x y := x < y
  abs x := |x|
  isFinite _ := true
  pow x n := x ^ n

namespace Scalar

/-- Zero passes the test for zero. -/
class Grounded (α : Type) [Scalar α] : Prop where
  zero_bne : ((0 : α) != 0) = false

instance : Grounded ℚ := ⟨by decide⟩

instance : Grounded Float := ⟨by decide +kernel⟩

end Scalar

end Quantities
