/-!
# Doubles as binary numbers

A finite double is `±m·2^q` with a mantissa of at most 53 bits and an exponent of at least −1074.
`Binary` is such a number without the two limits.

* `Binary.ofFloat` reads the bits of a double;
* `Binary.toFloat` is the double nearest to a binary number, of two the one with the even mantissa;
* `twoTo` and `tenTo` are the powers that scale numbers;
* `nearestQuotient` is that rounding for a quotient of natural numbers, and is shared by everything
  that rounds.
-/

namespace Quantities.Number

/-- The power of two with an exponent, one for a negative exponent. -/
def twoTo (e : Int) : Nat := Nat.pow 2 e.toNat

/-- The power of ten with an exponent, one for a negative exponent. -/
def tenTo (e : Int) : Nat := Nat.pow 10 e.toNat

/-- The natural number nearest to `n / d`; a half goes to the even neighbour. -/
def nearestQuotient (n d : Nat) : Nat :=
  let q := n / d
  let r := n % d
  if 2 * r < d ∨ (2 * r = d ∧ q % 2 = 0) then q else q + 1

/-- The number `±mantissa·2^exponent`. -/
structure Binary where
  negative : Bool
  mantissa : Nat
  exponent : Int
deriving DecidableEq, Repr

namespace Binary

/-- The value of a finite double. -/
def ofFloat (x : Float) : Binary :=
  let bits : Nat := x.toBits.toNat
  let field : Nat := bits / twoTo 52 % twoTo 11
  let fraction : Nat := bits % twoTo 52
  { negative := bits / twoTo 63 == 1
    mantissa := if field = 0 then fraction else twoTo 52 + fraction
    exponent := if field = 0 then -1074 else (field : Int) - 1075 }

/-- The bits of positive infinity. -/
def infinityBits : Nat := 2047 * twoTo 52

/-- The bits of the double nearest to `m·2^e`. Written as `k·2^q` with the least `q` that leaves `k`
53 bits and is a double's exponent, the bits are `(q + 1074)·2^52 + k`, whatever the carry of the
rounding. -/
def magnitudeBits (m : Nat) (e : Int) : Nat :=
  let top := e + m.log2
  if m = 0 ∨ top < -1076 then 0
  else if 1024 < top then infinityBits
  else
    let q := max (top - 52) (-1074)
    let k := if q ≤ e then m * twoTo (e - q) else nearestQuotient m (twoTo (q - e))
    min infinityBits ((q + 1074).toNat * twoTo 52 + k)

/-- The nearest double, infinite beyond the range. -/
def toFloat (b : Binary) : Float :=
  Float.ofBits (UInt64.ofNat
    (magnitudeBits b.mantissa b.exponent + if b.negative then twoTo 63 else 0))

end Binary

/-- The integer that a double is, if it is one. -/
def toInteger? (x : Float) : Option Int :=
  if !x.isFinite then none
  else
    let b := Binary.ofFloat x
    let unit := twoTo (-b.exponent)
    let m := b.mantissa * twoTo b.exponent
    if m % unit = 0 then some (if b.negative then -(m / unit : Nat) else (m / unit : Nat)) else none

/-- The least absolute value of the integers that round beyond the largest double. -/
def integerLimit : Nat := twoTo 1024 - twoTo 970

end Quantities.Number
