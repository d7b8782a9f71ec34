import Quantities.Quantity.Basic

/-!
# Comparing quantities

Two quantities of one dimension are compared by their effective magnitudes, up to a tolerance. The
difference is taken from the first quantity to the second one, so the first one is greater where the
difference lies below minus the tolerance.

* `Tolerance` is nothing, a fraction of the first magnitude, or a quantity;
* `compare` orders the members that belong together;
* `less`, `atMost` and the other predicates ask one question of that order;
* `isEqual` is equality as one truth value: other dimensions and other lengths are simply unequal.

Out of scope: operands that are no quantities, and tolerances that are neither numbers nor a
quantity. `Quantities.Value.Operand` reads both.
-/

namespace Quantities

/-- How far two quantities may lie apart and still count as equal. -/
inductive Tolerance (α : Type) where
  | exact
  | fraction (m : Magnitude α)
  | absolute (t : Quantity α)
deriving Repr

namespace Quantity

variable {α : Type} [Scalar α]

/-- The tolerance as a magnitude. A fraction refers to the magnitude as stored, which means nothing
for a quantity with an offset. -/
def toleranceMagnitude (q : Quantity α) : Tolerance α → Outcome (Magnitude α)
  | .exact => .ok (.scalar 0)
  | .absolute t =>
    if t.dimension ≠ q.dimension then
      .error (.showing (t.dimension.toList ++ q.dimension.toList)
        (.unlikeTolerance t.dimension q.dimension))
    else if t.hasOffset then .error .offsetTolerance
    else .ok t.magnitude
  | .fraction f =>
    if q.hasOffset && f.anyNonzero then .error .fractionalTolerance
    else Magnitude.combine (fun m x => Scalar.abs m * x) q.magnitude f

/-- The order of two numbers whose difference, second less first, is `diff`. -/
def orderOf (diff tol : α) : Ordering :=
  if Scalar.lt diff (-tol) then .gt else if Scalar.lt tol diff then .lt else .eq

/-- The order of two quantities within a tolerance. -/
def compare (a b : Quantity α) (t : Tolerance α) : Outcome (Magnitude Ordering) := do
  requireLike .compare a b
  let tol ← a.toleranceMagnitude t
  let diff ← Magnitude.combine (· - ·) b.effective a.effective
  Magnitude.combine orderOf diff tol

/-- A question about an order, asked of every member. -/
def test (question : Ordering → Bool) (a b : Quantity α) (t : Tolerance α) :
    Outcome (Magnitude Bool) :=
  (compare a b t).map fun m => m.map question

/-- Are they equal within the tolerance? -/
def equal (a b : Quantity α) (t : Tolerance α) : Outcome (Magnitude Bool) :=
  test (· == .eq) a b t

/-- Is the first one less? -/
def less (a b : Quantity α) (t : Tolerance α) : Outcome (Magnitude Bool) :=
  test (· == .lt) a b t

/-- Is the first one less or equal? -/
def atMost (a b : Quantity α) (t : Tolerance α) : Outcome (Magnitude Bool) :=
  test (· != .gt) a b t

/-- Is the first one greater? -/
def greater (a b : Quantity α) (t : Tolerance α) : Outcome (Magnitude Bool) :=
  test (· == .gt) a b t

/-- Is the first one greater or equal? -/
def atLeast (a b : Quantity α) (t : Tolerance α) : Outcome (Magnitude Bool) :=
  test (· != .lt) a b t

/-- Do the quantities agree in their dimension and in all their members? -/
def isEqual (a b : Quantity α) : Bool :=
  a.dimension = b.dimension &&
    match equal a b .exact with
    | .ok m => m.members.all id
    | .error _ => false

end Quantity

end Quantities
