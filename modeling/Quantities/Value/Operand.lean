import Quantities.Unit.System
import Quantities.Value.Dimensions

/-!
# Quantities and other operands

The operations on quantities where the other operand is any value. A bare magnitude counts as a
quantity without a dimension.

* `Quantity.compareWith` and `Quantity.testWith` compare; the dimensions are judged before the
  tolerance is read;
* `Quantity.valueInUnit` converts, `Quantity.fitAmong` finds the best fit in a list of values, and
  `Registry.decomposeValue` the powers of that fit alone;
* `Operator.apply` is an operator between two values. When only the second one is a quantity, the
  first one is made a quantity too, and a comparison is turned around;
* `Value.negate` and `Value.magnitudeText` take a single value.
-/

namespace Quantities

namespace Quantity

/-- The order of a quantity and a value within a tolerance that is any value. -/
def compareWith (q : Quantity Float) (other tolerance : Value) : Outcome (Magnitude Ordering) := do
  let r ← other.asQuantity
  requireLike .compare q r
  q.compare r (← tolerance.tolerance)

/-- A question about that order. -/
def testWith (question : Ordering → Bool) (q : Quantity Float) (other tolerance : Value) :
    Outcome (Magnitude Bool) := do
  .ok ((← q.compareWith other tolerance).map question)

/-- The value of a quantity in a unit that is any value: a unit string, or nothing for the number
one. -/
def valueInUnit (q : Quantity Float) (reg : Registry Float) (unit : Value) :
    Outcome (Magnitude Float) :=
  match unit with
  | .text t => q.valueIn reg t
  | v => do q.convert (← reg.parseUnit (← v.unitText)) v.written

end Quantity

/-! ## The best fit in a list of values -/

namespace Registry

/-- Units to choose from, each with its unit string if it has one. The values are read and looked up
one after the other. -/
def readUnits (reg : Registry Float) (units : List Value) :
    Outcome (List (Option String × Dimension)) :=
  units.mapM fun v => do
    let text ← v.unitText
    .ok (text, (← reg.parseUnit text).dimension)

/-- The powers of units that make up a dimension. A unit that is left out is the number one, which
is never chosen. -/
def powersAmong (units : List (Option String × Dimension)) (d : Dimension) :
    Outcome (List (String × Int)) :=
  match BestFit.powersOf? (units.map fun u => (u.1.getD "", u.2)) d with
  | some powers => .ok powers
  | none => .error (.showing d.toList (.insufficientUnits d.text (units.map (·.1))))

/-- The powers of units that make up a value. A quantity is divided by the dimensions of the units
as by magnitudes, which never brings its own dimension nearer to that of a pure number. -/
def decomposeValue (reg : Registry Float) (v : Value) (units : List Value) :
    Outcome (List (String × Int)) := do
  let candidates ← reg.readUnits units
  match v with
  | .dimension d => powersAmong candidates d
  | .quantity q =>
    if q.dimension.dimensionality = 0 then .ok []
    else
      candidates.forM fun c => do
        let _ ← q.divide (← (Value.dimension (c.2 ^ (-1 : Int))).asQuantity)
        let _ ← q.divide (← (Value.dimension c.2).asQuantity)
      .error (.showing q.dimension.toList (.insufficientUnits q.text (candidates.map (·.1))))
  | _ => .error .missingMember

end Registry

/-- The value of a quantity in the best combination of units that are values, and that
combination. -/
def Quantity.fitAmong (q : Quantity Float) (reg : Registry Float) (units : List Value) :
    Outcome (Magnitude Float × String) := do
  let text := BestFit.renderPowers
    (← Registry.powersAmong (← reg.readUnits units) q.dimension)
  .ok (← q.valueIn reg text, text)

/-! ## Operators -/

namespace Operator

/-- The operator between two quantities. -/
def between (op : Operator) (a b : Quantity Float) : Outcome Value :=
  match op with
  | .add => (a.add b).map .quantity
  | .subtract => (a.subtract b).map .quantity
  | .multiply => (a.multiply b).map .quantity
  | .divide => (a.divide b).map .quantity
  | .raise => .error (.showing b.dimension.toList (.fractionalPower b.text))
  | .equal => .ok (.truth (a.isEqual b))
  | .unequal => .ok (.truth !(a.isEqual b))
  | .less => (a.less b .exact).map .ofVerdicts
  | .atMost => (a.atMost b .exact).map .ofVerdicts
  | .greater => (a.greater b .exact).map .ofVerdicts
  | .atLeast => (a.atLeast b .exact).map .ofVerdicts

/-- The operator between a quantity and a value that is none. -/
def withValue (op : Operator) (q : Quantity Float) (v : Value) : Outcome Value :=
  match op with
  | .equal => .ok (.truth false)
  | .unequal => .ok (.truth true)
  | .raise => do .ok (.quantity (← q.power (← v.power)))
  | _ => do op.between q (← v.asQuantity)

/-- The operator between a value that is no quantity and a quantity. -/
def ofValue (op : Operator) (v : Value) (q : Quantity Float) : Outcome Value :=
  match op, v with
  | .equal, _ => .ok (.truth false)
  | .unequal, _ => .ok (.truth true)
  | .raise, .dimension _ =>
    .error (.showing q.dimension.toList (.fractionalDimensionPower q.text))
  | .raise, _ => .error .badSort
  | .multiply, .dimension _ | .divide, .dimension _ => .error .badSort
  | _, _ => do
    let p ← v.asQuantity
    if op.isOrder then op.swap.between q p else op.between p q

/-- The operator between two values, one of which is a quantity or a dimension. -/
def apply (op : Operator) (v w : Value) : Outcome Value :=
  match v, w with
  | .quantity a, .quantity b => op.between a b
  | .quantity a, _ => op.withValue a w
  | _, .quantity b => op.ofValue v b
  | .dimension _, _ | _, .dimension _ => op.onDimension v w
  | _, _ => .error .badSort

end Operator

namespace Value

/-- The value with the other sign. A quantity is multiplied by minus one, a dimension is
inverted. -/
def negate : Value → Outcome Value
  | quantity q => q.negate.map quantity
  | dimension d => .ok (dimension d⁻¹)
  | integer n => .ok (integer (-n))
  | truth b => .ok (integer (if b then -1 else 0))
  | real x => .ok (real (-x))
  | cell c =>
    match c.negate? with
    | some c => .ok (cell c)
    | none => .error .badSort
  | array g =>
    match g.negate?, g.only? with
    | some h, some c =>
      match g.extents, c.negate? with
      | [], some c => .ok (cell c)
      | _, _ => .ok (array h)
    | some h, none => .ok (array h)
    | none, _ => .error .badSort
  | _ => .error .badSort

/-- The value as a magnitude for a reader. A quantity takes the format as a unit, and an array needs
a single extent. -/
def magnitudeText (v : Value) (reg : Registry Float) : Outcome String :=
  match v with
  | text _ => .error .badValue
  | quantity q => q.showAs reg ".15g"
  | array ⟨[_], cells⟩ => .ok (Magnitude.array cells.toReals).text
  | truth _ | integer _ | real _ | cell _ => do .ok (Magnitude.scalar (← v.number)).text
  | _ => .error .badSort

end Value

end Quantities
