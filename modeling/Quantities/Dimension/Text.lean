import Quantities.Dimension.Basic
import Quantities.Number.Written

/-!
# Written dimensions

A dimension is written as the letters of its base dimensions with their exponents,
`[M^1][L^2][T^-2]`, without those whose exponent is zero. The dimension of pure numbers is `[1]`.

An exponent may have more digits than are ever written. `text` writes it nevertheless; whatever shows
a dimension asks `isWritable` first.
-/

namespace Quantities.Dimension

/-- The factor of one base dimension, nothing when its exponent is zero. -/
def factorText (d : Dimension) (b : BaseDimension) : String :=
  if d.exponent b = 0 then ""
  else "[" ++ String.singleton b.letter ++ "^" ++ Number.intText (d.exponent b) ++ "]"

/-- The dimension as text. -/
def text (d : Dimension) : String :=
  if d = 1 then "[1]" else String.join (BaseDimension.all.map d.factorText)

/-- Can all exponents be written? -/
def isWritable (d : Dimension) : Bool := d.toList.all Number.isWritable

end Quantities.Dimension
