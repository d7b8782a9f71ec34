import Quantities.Number.Approx

/-!
# Powers of doubles

`pow x y` is the double nearest to the real power `x^y`, for finite exponents `y` and as far as an
`Approx` tells the two sides of a midpoint apart.

* `wholePower` is the power with an exponent that is an integer. A zero or an infinity goes to one
  of the two, with the sign of `x` exactly for odd exponents;
* `fractionalPower` is the power with any other exponent, which has no sign and no meaning below
  zero.

Out of scope: the power of a platform. A library of mathematics computes powers to less than a unit
of the last place, and may answer a neighbour of the nearest double. `Quantities.Number.Scalar`
therefore takes powers from any function of this type, and from `pow` where no other is named. On
platforms whose powers are not rounded to nearest, results of powers and roots differ from those of
`pow` in the last place.
-/

namespace Quantities.Number

/-- The double with no mantissa bits: a zero or an infinity, with a sign. -/
def extreme (negative infinite : Bool) : Float :=
  Float.ofBits (UInt64.ofNat
    ((if infinite then Binary.infinityBits else 0) + if negative then twoTo 63 else 0))

/-- A positive binary number as an approximation. -/
def Binary.approx (b : Binary) : Approx := ⟨b.mantissa, b.exponent, true⟩

/-- Beyond this exponent every power of a double other than ±1 is infinite or zero. -/
def exponentBound : Nat := twoTo 64

/-- The power with an integer exponent. -/
def wholePower (x : Float) (k : Int) : Float :=
  if k = 0 then 1.0
  else if x.isNaN then x
  else
    let b := Binary.ofFloat x
    let negative := b.negative && k % 2 == 1
    if x.isInf then extreme negative (0 < k)
    else if b.mantissa = 0 then extreme negative (k < 0)
    else
      let base := if 0 < k then b.approx else b.approx.inv
      (base.pow (min k.natAbs exponentBound)).toFloat negative

/-- The pair of the same quotient `k / 2^t` that has no common factor two, of which at most `fuel`
are removed. -/
def reduceHalves : Nat → Nat → Nat → Nat × Nat
  | 0, k, t => (k, t)
  | fuel + 1, k, t => if k % 2 = 0 ∧ t ≠ 0 then reduceHalves fuel (k / 2) (t - 1) else (k, t)

/-- The power with a finite exponent that is no integer: a whole power of a repeated square root. -/
def fractionalPower (x y : Float) : Float :=
  if x.isNaN then x
  else
    let b := Binary.ofFloat x
    let e := Binary.ofFloat y
    if x.isInf then extreme false !e.negative
    else if b.mantissa = 0 then extreme false e.negative
    else if b.negative then 0.0 / 0.0
    else
      let base := if e.negative then b.approx.inv else b.approx
      let (k, t) := reduceHalves 64 e.mantissa (-e.exponent).toNat
      ((base.pow k).sqrtIter t).toFloat false

/-- The power. -/
def pow (x y : Float) : Float :=
  match toInteger? y with
  | some k => wholePower x k
  | none => fractionalPower x y

end Quantities.Number
