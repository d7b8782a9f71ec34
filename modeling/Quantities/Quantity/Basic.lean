import Quantities.Magnitude

/-!
# Quantities

A quantity is a magnitude in the coherent unit of its dimension, together with a zero offset: the
distance from the true zero of the dimension to the zero of the scale. Most quantities have offset
zero. A temperature in degrees Celsius has the offset 273.15, and its effective magnitude is what
the scale shows plus the offset.

* `add` and `subtract` require equal dimensions. A quantity with an offset is a point of a scale: it
  can be moved by a difference, and the difference of two points has offset zero;
* `multiply`, `invert` and `divide` combine dimensions and refuse every offset;
* `power` and `root` scale dimensions, and refuse an offset where the result would depend on it.

Out of scope: operands that are no quantities, which `Quantities.Value.Operand` reads.
-/

namespace Quantities

/-- A magnitude with a dimension and a zero offset. -/
structure Quantity (α : Type) where
  magnitude : Magnitude α
  dimension : Dimension
  offset : α
deriving DecidableEq, Repr

namespace Quantity

section

variable {α : Type} [Scalar α]

/-- The quantity that a bare magnitude stands for. -/
def number (m : Magnitude α) : Quantity α := ⟨m, 1, 0⟩

/-- The quantity of a dimension, without offset. -/
def plain (m : Magnitude α) (d : Dimension) : Quantity α := ⟨m, d, 0⟩

/-- The number one. -/
def unity : Quantity α := number (.scalar 1)

/-- Does the quantity belong to a scale with a zero of its own? -/
def hasOffset (q : Quantity α) : Bool := q.offset != 0

/-- The magnitude measured from the true zero of the dimension. -/
def effective (q : Quantity α) : Magnitude α := q.magnitude.map fun x => x + q.offset

/-- Refuses operands of unlike dimensions. -/
def requireLike (action : Action) (a b : Quantity α) : Outcome Unit :=
  if a.dimension = b.dimension then .ok ()
  else .error (.showing (a.dimension.toList ++ b.dimension.toList)
    (.unlikeDimensions action a.dimension b.dimension))

/-! ## Sums and differences -/

/-- The first quantity moved by the second one, which must be a difference. -/
def add (a b : Quantity α) : Outcome (Quantity α) := do
  requireLike .add a b
  if b.hasOffset then .error .offsetAdded
  let m ← Magnitude.combine (· + ·) a.magnitude b.magnitude
  .ok ⟨m, a.dimension, a.offset⟩

/-- The difference of two points of a scale, or the first quantity moved back by the second one. -/
def subtract (a b : Quantity α) : Outcome (Quantity α) := do
  requireLike .subtract a b
  let m ← Magnitude.combine (· - ·) a.effective b.effective
  if b.hasOffset then .ok (plain m a.dimension)
  else .ok ⟨m.map fun x => x - a.offset, a.dimension, a.offset⟩

/-! ## Products and quotients -/

/-- The product. -/
def multiply (a b : Quantity α) : Outcome (Quantity α) := do
  if a.hasOffset || b.hasOffset then .error .offsetMultiplied
  let m ← Magnitude.combine (· * ·) a.magnitude b.magnitude
  .ok (plain m (a.dimension * b.dimension))

/-- The reciprocal. -/
def invert (q : Quantity α) : Outcome (Quantity α) :=
  if q.hasOffset then .error .offsetInverted
  else .ok (plain (q.magnitude.map fun x => 1 / x) q.dimension⁻¹)

/-- The product with the reciprocal. -/
def divide (a b : Quantity α) : Outcome (Quantity α) := do
  if a.hasOffset || b.hasOffset then .error .offsetDivided
  a.multiply (← b.invert)

/-- The product with minus one. -/
def negate (q : Quantity α) : Outcome (Quantity α) := q.multiply (number (.scalar (-1)))

/-! ## Powers and roots -/

/-- The power with an integer exponent. The exponents 0 and 1 need no arithmetic; all others must be
in the range of doubles. -/
def power (q : Quantity α) (n : Int) : Outcome (Quantity α) :=
  if q.hasOffset && 1 < n then .error .offsetRaised
  else if q.hasOffset && n < 0 then .error .offsetRaisedNegative
  else if n = 0 then .ok (number q.magnitude.ones)
  else if n = 1 then .ok q
  else if Number.integerLimit ≤ n.natAbs then .error .outOfRange
  else .ok (plain (q.magnitude.pow n) (q.dimension ^ n))

end

/-- The root of a positive degree. It needs magnitudes that are not negative and exponents that the
degree divides. -/
def root {α : Type} [Rooted α] (q : Quantity α) (n : Int) : Outcome (Quantity α) :=
  if n < 1 then .error (.showing [n] (.rootDegree (Number.intText n)))
  else if q.hasOffset && 1 < n then .error .offsetRooted
  else if q.magnitude.anyNegative then .error .negativeRoot
  else match q.dimension.root? n with
    | none => .error (.showing (n :: q.dimension.toList)
      (.fractionalRoot (Number.intText n) q.dimension))
    | some d =>
      if n = 1 then .ok ⟨q.magnitude, d, q.offset⟩
      else if Number.integerLimit ≤ n.natAbs then .error .outOfRange
      else .ok (plain (q.magnitude.root n.toNat) d)

end Quantity

end Quantities
