import Quantities.Number.Power

/-!
# Scalars

A quantity can be built over any kind of number that has the operations below. Doubles are the kind
that programs run on; an exact kind, such as the rationals, reads the same definitions as statements
about real magnitudes.

* `Scalar` is arithmetic with integer powers, a comparison and a test for finite values;
* `Rooted` adds roots. They come in two forms, which differ on negative zero;
* `Rooted.ofPow` are the doubles with the powers of any library.

Out of scope: the flags that arithmetic on doubles raises. A division by zero and an overflow are
told from their results alone, which are infinite or undefined.
-/

namespace Quantities

/-- Numbers that a magnitude can consist of. -/
class Scalar (α : Type) extends Zero α, One α, Add α, Sub α, Mul α, Div α, Neg α, BEq α where
  /-- Is the first number below the second? -/
  lt : α → α → Bool
  /-- The distance to zero. -/
  abs : α → α
  /-- Is the number neither infinite nor undefined? -/
  isFinite : α → Bool
  /-- The power with an integer exponent. -/
  pow : α → Int → α

namespace Scalar

variable {α : Type} [Scalar α]

/-- Is the number above zero and finite? Such numbers serve as factors. -/
def isFactor (x : α) : Bool := lt 0 x && isFinite x

end Scalar

/-- Numbers with roots. -/
class Rooted (α : Type) extends Scalar α where
  /-- The square root, which is negative zero at negative zero. -/
  sqrt : α → α
  /-- The root of a positive degree, which is zero at negative zero. -/
  root : α → Nat → α

/-- Doubles whose powers are those of a function `pow` that a library of mathematics offers: a power
with an integer exponent is `pow` at the double nearest to it, a root is `pow` at the double nearest
to the reciprocal of the degree. Square roots are always rounded to nearest. -/
@[reducible] def Rooted.ofPow (pow : Float → Float → Float) : Rooted Float where
  lt x y := x < y
  abs := Float.abs
  isFinite := Float.isFinite
  pow x n := pow x (Float.ofInt n)
  sqrt := Float.sqrt
  root x n := pow x (1.0 / Float.ofNat n)

instance : Rooted Float := .ofPow Number.pow

end Quantities
