import Quantities.Dimension.Named
import Quantities.Grid.Pointwise
import Quantities.Value.Operator
import Quantities.Value.Reading

/-!
# Dimensions and other values

Nine exponents in a sequence serve as a dimension. A dimension itself is a sequence of its
exponents, which is how it compares with tuples, how a tuple is joined with it, and how an array is
combined with it number by number.

* `Value.asDimension` and `Value.namedDimension` read dimensions, `Value.quantityOf` a whole
  quantity;
* `Dimension.rootBy` and `Dimension.powerBy` take a root or a power whose degree is any value;
* `Operator.onMembers` compares the exponents of a dimension with the members of a tuple;
* `Operator.onDimension` is arithmetic and comparison where one of the operands is a dimension and
  the other one no quantity.
-/

namespace Quantities

namespace Dimension

/-- The dimension with nine exponents in order. -/
def ofList? : List Int → Option Dimension
  | [m, l, t, k, i, n, j, b, r] => some ⟨m, l, t, k, i, n, j, b, r⟩
  | _ => none

end Dimension

namespace Value

/-- The value as a dimension. Every exponent is judged before their number. -/
def asDimension (v : Value) : Outcome Dimension :=
  match v with
  | dimension d => .ok d
  | _ => do
    match Dimension.ofList? (← (← v.iterate).mapM exponent) with
    | some d => .ok d
    | none => .error .dimensionLength

/-- The quantity whose parts are values, read in this order. -/
def quantityOf (magnitude dimension offset : Value) : Outcome (Quantity Float) := do
  .ok ⟨← magnitude.magnitude, ← dimension.asDimension, ← offset.number⟩

/-- The value as a table of named exponents. -/
def namedDimension (v : Value) : Outcome Dimension :=
  match v with
  | mapping es => Dimension.ofNamed exponent es
  | _ => .error .missingMember

/-- The members of a tuple; a dimension is one. -/
def tupleMembers? : Value → Option (List Value)
  | tuple vs => some vs
  | dimension d => some (d.toList.map integer)
  | term t => some (ofTerm t)
  | _ => none

end Value

namespace Dimension

/-! ## Roots and powers -/

/-- Is the integer a multiple of the finite number `x`? -/
def isMultiple (n : Int) (x : Number.Binary) : Bool :=
  let b := Number.Binary.ofFloat (Float.ofInt n)
  let low := min b.exponent x.exponent
  b.mantissa * Number.twoTo (b.exponent - low) % (x.mantissa * Number.twoTo (x.exponent - low)) == 0

/-- The exponent divided by a degree that is a double, when that leaves nothing. -/
def divideExponent (x : Float) (n : Int) : Outcome (Option Float) := do
  let y ← Number.ofInteger n
  if x == 0.0 then .error .divisionByZero
  else if x.isNaN then .ok none
  else if x.isInf then .ok (if n = 0 then some 0.0 else none)
  else .ok (if isMultiple n (Number.Binary.ofFloat x) then some (y / x) else none)

/-- The exponents divided by a degree that is a double, up to the first that does not divide. -/
def divideExponents (x : Float) : List Int → Outcome (Option (List Float))
  | [] => .ok (some [])
  | n :: ns => do
    match ← divideExponent x n with
    | none => .ok none
    | some y => .ok ((← divideExponents x ns).map fun ys => y :: ys)

/-- The root whose degree is any value. An array has to consist of one number. The exponents that it
leaves are arrays again, and refused as such unless the array has no extent. -/
def rootBy (d : Dimension) (degree : Value) : Outcome Dimension :=
  match degree with
  | .integer n => rootByInteger degree n
  | .truth b => rootByInteger degree (if b then 1 else 0)
  | .real x => do rootByReal degree (← divideExponents x d.toList)
  | .cell c => do rootByReal degree (← quotients c.toReal)
  | .array g =>
    match g.only? with
    | none => .error .badValue
    | some c => do
      match g.extents, ← quotients c.toReal with
      | _ :: _, some (y :: _) =>
        .error (.fractionalExponent (Value.array ⟨g.extents, .reals [y]⟩).written)
      | _, ys? => rootByReal degree ys?
  | _ => .error .badSort
where
  /-- The root of an integral degree. -/
  rootByInteger (degree : Value) (n : Int) : Outcome Dimension :=
    if n = 0 then .error .divisionByZero
    else match d.root? n with
      | some e => .ok e
      | none => refused degree
  /-- The exponents divided by a number of an array, which may be zero. -/
  quotients (x : Float) : Outcome (Option (List Float)) :=
    if x == 0.0 then .ok none else divideExponents x d.toList
  /-- The root with exponents that are doubles. -/
  rootByReal (degree : Value) (ys? : Option (List Float)) : Outcome Dimension :=
    match ys? with
    | none => refused degree
    | some ys => (Value.list (ys.map Value.real)).asDimension
  /-- No root, as its exponents would be fractions. -/
  refused (degree : Value) : Outcome Dimension :=
    .error (.showing (degree.wholes ++ d.toList) (.fractionalRoot degree.shown d))

/-- The power whose exponent is any value. A modulus is refused. -/
def powerBy (d : Dimension) (n modulus : Value) : Outcome Dimension :=
  match modulus, n.integral? with
  | .nothing, some n => .ok (d ^ n)
  | .nothing, none => .error (.showing n.wholes (.fractionalDimensionPower n.written))
  | _, _ => .error .modulus

/-! ## Order -/

/-- The order of an integer and a double, which have none when the double is undefined. -/
def orderOfReal (n : Int) (x : Float) : Option Ordering :=
  if x.isNaN then none
  else if x.isInf then some (if x < 0.0 then .gt else .lt)
  else
    let b := Number.Binary.ofFloat x
    let m := (if b.negative then -1 else 1) * ((b.mantissa * Number.twoTo b.exponent : Nat) : Int)
    some (compare (n * (Number.twoTo (-b.exponent) : Int)) m)

/-- Is the exponent equal to a value? An array of several numbers has no answer. -/
def isEqualTo (n : Int) : Value → Outcome Bool
  | .integer m => .ok (n == m)
  | .truth b => .ok (n == if b then 1 else 0)
  | .real x => .ok (orderOfReal n x == some .eq)
  | .cell c => .ok (orderOfReal n c.toReal == some .eq)
  | .array g =>
    match g.only? with
    | some c => .ok (orderOfReal n c.toReal == some .eq)
    | none => .error .badValue
  | _ => .ok false

end Dimension

/-! ## Operators -/

namespace Operator

/-- The operator between two grids, number by number. -/
def pointwise (op : Operator) (g h : Grid) : Outcome Value :=
  match g.pairs? h with
  | none => .error .badValue
  | some (extents, ps) =>
    match op.arithmetic?, op.question? with
    | some f, _ => .ok (.array ⟨extents, .reals (ps.map fun p => f p.1 p.2)⟩)
    | none, some ask => .ok (.array ⟨extents, .truths (ps.map fun p => ask (order p.1 p.2))⟩)
    | none, none => .error .badSort
where
  /-- The order of two doubles, which have none when one of them is undefined. -/
  order (x y : Float) : Option Ordering :=
    if x < y then some .lt else if y < x then some .gt else if x == y then some .eq else none

/-- A comparison of an exponent with a value that is not equal to it. -/
def onMember (op : Operator) (n : Int) (v : Value) : Outcome Value :=
  match op.question?, op.swap.verdict?, v with
  | some ask, some _, .integer m => .ok (.truth (ask (some (compare n m))))
  | some ask, some _, .truth b => .ok (.truth (ask (some (compare n (if b then 1 else 0)))))
  | some ask, some _, .real x => .ok (.truth (ask (Dimension.orderOfReal n x)))
  | some ask, some _, .cell c => .ok (.truth (ask (Dimension.orderOfReal n c.toReal)))
  | some _, some _, .array g => op.pointwise ⟨[], .reals [Float.ofInt n]⟩ g
  | some _, some verdict, .quantity q => do
    .ok (.ofVerdicts (← q.test verdict (.number (.scalar (← Number.ofInteger n))) .exact))
  | some ask, none, _ => .ok (.truth (ask none))
  | _, _, _ => .error .badSort

/-- A comparison of exponents with the members of a tuple: the first difference decides, or else the
length. -/
def onMembers (op : Operator) : List Int → List Value → Outcome Value
  | n :: ns, v :: vs => do
    if ← Dimension.isEqualTo n v then op.onMembers ns vs else op.onMember n v
  | ns, vs =>
    match op.question? with
    | some ask => .ok (.truth (ask (some (compare ns.length vs.length))))
    | none => .error .badSort

/-- A comparison of a dimension with a value, which may be no tuple. -/
def onTuple (op : Operator) (d : Dimension) (v : Value) : Outcome Value :=
  match op, op.question?, v.tupleMembers? with
  | _, none, _ => .error .badSort
  | _, some _, some vs => op.onMembers d.toList vs
  | .equal, some _, none => .ok (.truth false)
  | .unequal, some _, none => .ok (.truth true)
  | _, some _, none => .error .badSort

/-- The exponents of a dimension as a grid. -/
def exponentGrid (d : Dimension) : Grid := .ofReals (d.toList.map Float.ofInt)

/-- The operator between a dimension and a value that is no array, in either order. Sums of
dimensions are refused, but a tuple is joined with the exponents of a dimension. -/
def onTuples (op : Operator) (v w : Value) : Outcome Value :=
  match op, v, w with
  | .multiply, .dimension d, _ => do .ok (.dimension (d * (← w.asDimension)))
  | .divide, _, _ => do
    let d ← v.asDimension
    .ok (.dimension (d / (← w.asDimension)))
  | .raise, .dimension d, _ => do .ok (.dimension (← d.powerBy w .nothing))
  | .add, .tuple vs, .dimension d => .ok (.tuple (vs ++ d.toList.map .integer))
  | _, .dimension d, _ => op.onTuple d w
  | _, _, .dimension e => op.swap.onTuple e v
  | _, _, _ => .error .badSort

/-- The operator between two values, one of which is a dimension. An array is combined with the
exponents, except that a dimension in front of it reads it as a dimension, a factor or an exponent
as the operator demands. -/
def onDimension (op : Operator) (v w : Value) : Outcome Value :=
  match v, w with
  | .array g, .dimension e => op.pointwise g (exponentGrid e)
  | .dimension d, .array h =>
    if op = .multiply ∨ op = .divide ∨ op = .raise then op.onTuples v w
    else op.pointwise (exponentGrid d) h
  | _, _ => op.onTuples v w

end Operator

end Quantities
