import Quantities.Number.Binary

/-!
# Decimal forms of doubles

A decimal is `coefficient·10^exponent`. Two decimals stand for a double:

* `shortest` has the fewest digits that read back as the double, and of those the nearest one. A
  decimal reads back if it lies between the midpoints to the two neighbouring doubles, which count
  when the mantissa is even. If any point of a decimal grid lies there, one of the two points next
  to the double does, so these are the only ones tried;
* `rounded` has a given number of significant digits, a half going to the even neighbour.

All comparisons are exact, between natural numbers.
-/

namespace Quantities.Number

/-- The number `coefficient·10^exponent`. -/
structure Decimal where
  coefficient : Nat
  exponent : Int
deriving DecidableEq, Repr

/-- How many decimal digits a number has. -/
def digitCount (n : Nat) : Nat := (Nat.toDigits 10 n).length

namespace Decimal

/-- The same number without final zeros, of which at most `fuel` are removed. -/
def stripZeros : Nat → Decimal → Decimal
  | 0, d => d
  | fuel + 1, d =>
    if d.coefficient % 10 = 0 then stripZeros fuel ⟨d.coefficient / 10, d.exponent + 1⟩ else d

/-- The power of ten of the first digit of `num / den`, both positive. -/
def leading (num den : Nat) : Int :=
  if den ≤ num then digitCount (num / den) - 1
  else -(digitCount ((den + num - 1) / num - 1) : Int)

/-- The power of ten of the first digit of `m·2^q`, where `m` is positive. -/
def leadingOf (m : Nat) (q : Int) : Int := leading (m * twoTo q) (twoTo (-q))

/-- The point nearest to `m·2^q` of the grid `10^p`, of the points next to it, that reads back as
this double. -/
def onGrid? (m : Nat) (q p : Int) : Option Nat :=
  -- The bounds count quarters of the last place: `t` of them are `t·u / a` points of the grid.
  let a := tenTo p * twoTo (2 - q)
  let u := twoTo (q - 2) * tenTo (-p)
  let low := (4 * m - if m = twoTo 52 ∧ -1074 < q then 1 else 2) * u
  let high := (4 * m + 2) * u
  let value := 4 * m * u
  let inside (d : Nat) : Bool :=
    if m % 2 = 0 then low ≤ d * a && d * a ≤ high else low < d * a && d * a < high
  let below := value / a
  let nearest := nearestQuotient value a
  let other := if nearest = below then below + 1 else below
  if 0 < nearest ∧ inside nearest then some nearest
  else if 0 < other ∧ inside other then some other
  else none

/-- The decimal with the fewest digits that reads back as the double `m·2^q`, for positive `m`.
Seventeen digits always suffice. -/
def shortest (m : Nat) (q : Int) : Decimal :=
  let top := leadingOf m q
  match (List.range 17).findSome? fun (i : Nat) =>
      (onGrid? m q (top - i)).map fun d => (⟨d, top - i⟩ : Decimal) with
  | some d => stripZeros 17 d
  | none => ⟨0, 0⟩

/-- The decimal with `count` significant digits nearest to `m·2^q`, for positive `m`. -/
def rounded (count m : Nat) (q : Int) : Decimal :=
  let p := leadingOf m q - (count - 1)
  let d := nearestQuotient (m * twoTo q * tenTo (-p)) (twoTo (-q) * tenTo p)
  stripZeros count ⟨d, p⟩

end Decimal

end Quantities.Number
