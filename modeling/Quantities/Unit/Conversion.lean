import Quantities.Unit.Evaluation

/-!
# Conversion

The value of a quantity in a unit is what the scale of that unit shows: the effective magnitude less
the offset of the unit, in units.

Out of scope: the registry that a program means when it names none. Whatever looks a unit up is told
where.
-/

namespace Quantities.Quantity

variable {α : Type} [Scalar α]

/-- The value in units of a quantity. -/
def inUnit (q u : Quantity α) : Outcome (Magnitude α) :=
  Magnitude.combine (· / ·) (q.effective.map fun x => x - u.offset) u.magnitude

/-- The value in units of a quantity that `text` stands for, which must have the same dimension. -/
def convert (q u : Quantity α) (text : String) : Outcome (Magnitude α) :=
  if q.dimension = u.dimension then q.inUnit u
  else .error (.showing (q.dimension.toList ++ u.dimension.toList)
    (.inconvertible q.dimension text u.dimension))

/-- The value in the unit of a unit string. -/
def valueIn (q : Quantity α) (reg : Registry α) (text : String) : Outcome (Magnitude α) := do
  q.convert (← reg.parse text) text

end Quantities.Quantity
