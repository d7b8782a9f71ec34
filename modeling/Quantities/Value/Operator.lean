/-!
# Operators

The binary operators that values are combined with. `Quantities.Value.Dimensions` and
`Quantities.Value.Operand` say what they do.

Out of scope: two values neither of which is a quantity or a dimension.
-/

namespace Quantities

/-- An operator between two values. -/
inductive Operator where
  | add | subtract | multiply | divide | raise
  | equal | unequal | less | atMost | greater | atLeast
deriving DecidableEq, Repr

namespace Operator

/-- The comparison with its operands in the other order. -/
def swap : Operator → Operator
  | .less => .greater
  | .atMost => .atLeast
  | .greater => .less
  | .atLeast => .atMost
  | op => op

/-- Is the operator a comparison that turns around when its first operand is no quantity? -/
def isOrder : Operator → Bool
  | .less | .atMost | .greater | .atLeast => true
  | _ => false

/-- What the operator says about an order; values that cannot be ordered are unequal. `none` when
the operator is no comparison. -/
def question? : Operator → Option (Option Ordering → Bool)
  | .equal => some (· == some .eq)
  | .unequal => some (· != some .eq)
  | .less => some (· == some .lt)
  | .atMost => some fun o => o == some .lt || o == some .eq
  | .greater => some (· == some .gt)
  | .atLeast => some fun o => o == some .gt || o == some .eq
  | _ => none

/-- What the operator says about the order of two quantities, if it orders them. -/
def verdict? : Operator → Option (Ordering → Bool)
  | .less => some (· == .lt)
  | .atMost => some (· != .gt)
  | .greater => some (· == .gt)
  | .atLeast => some (· != .lt)
  | _ => none

/-- What the operator computes from two numbers, if it is arithmetic. -/
def arithmetic? : Operator → Option (Float → Float → Float)
  | .add => some (· + ·)
  | .subtract => some (· - ·)
  | .multiply => some (· * ·)
  | .divide => some (· / ·)
  | _ => none

end Operator

end Quantities
