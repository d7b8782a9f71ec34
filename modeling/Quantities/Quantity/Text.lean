import Quantities.Quantity.Basic

/-!
# Written quantities

A quantity without regard to units is written by its stored magnitude and its dimension, and by its
offset if it has one.

Out of scope: dimensions with an exponent of more than `Number.digitLimit` digits. Nothing that holds
such a number can be written; `text` writes it nevertheless, as `Dimension.text` does.
-/

namespace Quantities.Quantity

/-- The stored parts of a quantity as text. -/
def text (q : Quantity Float) : String :=
  "Quantity(" ++ q.magnitude.text ++ ", " ++ q.dimension.text ++
    (if q.hasOffset then ", offset=" ++ Number.briefText q.offset else "") ++ ")"

end Quantities.Quantity
