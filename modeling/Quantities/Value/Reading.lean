import Quantities.Number.Numeral
import Quantities.Quantity.Compare
import Quantities.Value.Written

/-!
# Reading values

What a value serves as, by the place where it stands.

* `Value.number`: a number, also one written as text, and a truth value;
* `Value.magnitude`: a number or a sequence of numbers. A truth value alone is none, but within a
  sequence everything counts that a number can be read from;
* `Value.exponent`, `Value.power`, `Value.degree`: an integer, where 2.0 is as good as 2 except for
  the degree of a root;
* `Value.isFactor`: a positive, finite number, or something that can be compared with zero;
* `Value.asQuantity`, `Value.tolerance`: an operand beside a quantity;
* `Value.unitText`: a unit string, which may be left out.
-/

namespace Quantities

namespace Number

/-- The double nearest to an integer, unless it is out of range. -/
def ofInteger (n : Int) : Outcome Float :=
  if integerLimit ≤ n.natAbs then .error .outOfRange else .ok (Float.ofInt n)

end Number

namespace Value

/-! ## Numbers -/

/-- The number that a value denotes. -/
def number : Value → Outcome Float
  | truth b => .ok (if b then 1.0 else 0.0)
  | integer n => Number.ofInteger n
  | real x => .ok x
  | text s =>
    match Number.readFloat? s with
    | some x => .ok x
    | none => .error .badValue
  | array g =>
    match g.only? with
    | some c => .ok c.toReal
    | none => .error .badSort
  | cell c => .ok c.toReal
  | _ => .error .badSort

/-- Does the value count as more than zero? A quantity is compared with the number zero, and an
array of several numbers has no answer. -/
def isPositive : Value → Outcome Bool
  | truth b => .ok b
  | integer n => .ok (0 < n)
  | real x => .ok (0 < x)
  | cell c => .ok (0 < c.toReal)
  | array g =>
    match g.only? with
    | some c => .ok (0 < c.toReal)
    | none => .error .badValue
  | quantity q => do
    match (← q.greater (.number (.scalar 0)) .exact).members with
    | [b] => .ok b
    | _ => .error .badValue
  | _ => .error .badSort

/-- Is the value a finite number? Texts and quantities are no numbers here. -/
def isFinite : Value → Outcome Bool
  | text _ => .error .badSort
  | v => do .ok (← v.number).isFinite

/-- Is the value a positive, finite number? The first question is decided before the second one. -/
def isFactor (v : Value) : Outcome Bool := do
  if ← v.isPositive then v.isFinite else .ok false

/-! ## Sequences of numbers -/

/-- The extents of a sequence whose members have the extents `shapes`, which must agree. -/
def stackShapes? : List (List Nat) → Option (List Nat)
  | [] => some [0]
  | s :: ss => if ss.all (· == s) then some ((ss.length + 1) :: s) else none

mutual

/-- The extents of nested sequences, unless they are ragged. Everything else is a single member. -/
def shape? : Value → Option (List Nat)
  | list vs => (shapes? vs).bind stackShapes?
  | tuple vs => (shapes? vs).bind stackShapes?
  | array g => some g.extents
  | dimension _ => some [9]
  | term _ => some [3]
  | _ => some []

/-- The extents of the members of a sequence. -/
def shapes? : List Value → Option (List (List Nat))
  | [] => some []
  | v :: vs => (shape? v).bind fun s => (shapes? vs).map fun ss => s :: ss

end

mutual

/-- The numbers in nested sequences, in order. Nothing at all is the undefined number. -/
def leaves : Value → Outcome (List Float)
  | nothing => .ok [0.0 / 0.0]
  | list vs => leavesAll vs
  | tuple vs => leavesAll vs
  | array g => .ok g.cells.toReals
  | dimension d => d.toList.mapM Number.ofInteger
  | term t => (ofTerm t).mapM fun v => match v with | nothing => .ok (0.0 / 0.0) | v => v.number
  | v => do .ok [← number v]

/-- The numbers in the members of a sequence. -/
def leavesAll : List Value → Outcome (List Float)
  | [] => .ok []
  | v :: vs => do
    let xs ← leaves v
    let ys ← leavesAll vs
    .ok (xs ++ ys)

end

/-- The value as a rectangular array. Its form is judged before its members. -/
def toArray (v : Value) : Outcome (List Nat × List Float) :=
  match v.shape? with
  | none => .error .badValue
  | some shape => do .ok (shape, ← v.leaves)

/-- The value as an array magnitude. -/
def arrayMagnitude (v : Value) : Outcome (Magnitude Float) := do
  match ← v.toArray with
  | ([_], xs) => .ok (.array xs)
  | (shape, _) => .error (.magnitudeShape shape)

/-- The value as a magnitude. -/
def magnitude (v : Value) : Outcome (Magnitude Float) :=
  match v with
  | array ⟨[], _⟩ => do .ok (.scalar (← v.number))
  | array _ | list _ | tuple _ | dimension _ | term _ => v.arrayMagnitude
  | truth _ => .error .truthMagnitude
  | integer n => do .ok (.scalar (← Number.ofInteger n))
  | real x => .ok (.scalar x)
  | cell (.real x) => .ok (.scalar x)
  | cell (.integer n) => do .ok (.scalar (← Number.ofInteger n))
  | cell (.truth _) | nothing | text _ | mapping _ | quantity _ | entry _ =>
    .error (.notAMagnitude v.sort)

/-! ## Forms of magnitudes

What can be asked of a value that already has the form of a magnitude: a number or an array. -/

/-- Is the value an array? -/
def isArray : Value → Bool
  | array _ => true
  | _ => false

/-- The length of a value as a magnitude; whatever is no array counts as one number. -/
def extent : Value → Outcome Nat
  | array ⟨[], _⟩ => .error .badSort
  | array ⟨n :: _, _⟩ => .ok n
  | _ => .ok 1

/-- The magnitude of that length whose members are one. -/
def ones (v : Value) : Outcome (Magnitude Float) := do
  let n ← v.extent
  .ok (if v.isArray then .array (List.replicate n 1.0) else .scalar 1.0)

/-- Is some number of the value below zero? A quantity is compared with the number zero. -/
def anyNegative : Value → Outcome Value
  | truth _ => .ok (truth false)
  | integer n => .ok (truth (n < 0))
  | real x => .ok (truth (x < 0))
  | cell c => .ok (truth (c.toReal < 0))
  | array g => .ok (truth (g.cells.toReals.any fun x => x < 0))
  | quantity q => (q.less (.number (.scalar 0)) .exact).map ofVerdicts
  | _ => .error .badSort

/-! ## Integers -/

/-- The integer that a value is. -/
def integral? : Value → Option Int
  | integer n => some n
  | cell (.integer n) => some n
  | _ => none

/-- The integer that a value is equal to. -/
def whole? : Value → Option Int
  | real x => Number.toInteger? x
  | cell (.real x) => Number.toInteger? x
  | v => v.integral?

/-- The value as an exponent of a dimension. -/
def exponent (v : Value) : Outcome Int :=
  match v with
  | truth _ => .error .truthExponent
  | _ => match v.whole? with
    | some n => .ok n
    | none => .error (.showing v.wholes (.fractionalExponent v.written))

/-- The value as a power of a quantity. -/
def power (v : Value) : Outcome Int :=
  match v with
  | truth _ => .error .truthPower
  | _ => match v.whole? with
    | some n => .ok n
    | none => .error (.showing v.wholes (.fractionalPower v.written))

/-- The value as the degree of a root. -/
def degree (v : Value) : Outcome Int :=
  match v.integral? with
  | some n => if n < 1 then .error (.showing v.wholes (.rootDegree v.written)) else .ok n
  | none => .error (.showing v.wholes (.rootDegree v.written))

/-! ## Operands -/

/-- The value as a quantity: itself, or a bare magnitude. -/
def asQuantity (v : Value) : Outcome (Quantity Float) :=
  match v with
  | quantity q => .ok q
  | _ => do .ok (.number (← v.magnitude))

/-- The value as a tolerance: nothing, a quantity, or a fraction. -/
def tolerance (v : Value) : Outcome (Tolerance Float) :=
  match v with
  | nothing => .ok .exact
  | quantity t => .ok (.absolute t)
  | _ => do .ok (.fraction (← v.magnitude))

/-- The value as a unit string, or its absence. -/
def unitText : Value → Outcome (Option String)
  | nothing => .ok none
  | text s => .ok (some s)
  | _ => .error .missingMember

/-- The members of a sequence, of a text its characters and of a table its names. -/
def iterate : Value → Outcome (List Value)
  | list vs | tuple vs => .ok vs
  | dimension d => .ok (d.toList.map integer)
  | array ⟨[], _⟩ => .error .badSort
  | array ⟨[_], cells⟩ => .ok (cells.toList.map cell)
  | array g => .ok (g.rows.map array)
  | term t => .ok (ofTerm t)
  | text s => .ok (s.toList.map fun c => text (String.singleton c))
  | mapping es => .ok (es.map fun e => text e.1)
  | _ => .error .badSort

end Value

end Quantities
