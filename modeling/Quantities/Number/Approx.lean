import Quantities.Number.Binary

/-!
# Positive numbers known from below

An `Approx` holds the first 256 bits of a positive real and whether anything was cut off. Products,
reciprocals and square roots cut their results again, so a chain of operations ends within a few
units of the 256th bit, and is exact as long as no step cuts anything. Rounding the result to a
double then rounds the real number, unless the real lies closer to the midpoint of two doubles than
that.
-/

namespace Quantities.Number

/-- The square root of `n`, rounded down, for `n` below `4^fuel`: its last bit is found after the
others. -/
def floorSqrtBelow : Nat → Nat → Nat
  | 0, _ => 0
  | fuel + 1, n =>
    let r := 2 * floorSqrtBelow fuel (n / 4)
    if (r + 1) * (r + 1) ≤ n then r + 1 else r

/-- The square root of a natural number, rounded down. -/
def floorSqrt (n : Nat) : Nat := floorSqrtBelow (n.log2 + 1) n

/-- A real at `mantissa·2^exponent` or, unless `exact`, above it by less than a unit of the
mantissa. -/
structure Approx where
  mantissa : Nat
  exponent : Int
  exact : Bool
deriving Repr

namespace Approx

/-- The number of leading bits that are kept. -/
def width : Nat := 256

/-- The approximation cut to its leading bits. -/
def cut (a : Approx) : Approx :=
  let excess := a.mantissa.log2 + 1 - width
  { mantissa := a.mantissa / twoTo excess
    exponent := a.exponent + excess
    exact := a.exact && a.mantissa % twoTo excess == 0 }

def one : Approx := ⟨1, 0, true⟩

def mul (a b : Approx) : Approx :=
  cut ⟨a.mantissa * b.mantissa, a.exponent + b.exponent, a.exact && b.exact⟩

/-- The reciprocal; the mantissa must be positive. -/
def inv (a : Approx) : Approx :=
  let size := a.mantissa.log2 + 1 + width
  cut ⟨twoTo size / a.mantissa, -a.exponent - size, a.exact && twoTo size % a.mantissa == 0⟩

/-- The power with a natural exponent, by squaring along its binary digits. -/
def pow (a : Approx) (n : Nat) : Approx :=
  (Nat.toDigits 2 n).foldl
    (fun acc bit => if bit = '1' then mul a (mul acc acc) else mul acc acc) one

/-- The square root. -/
def sqrt (a : Approx) : Approx :=
  let lift := 2 * width - (a.mantissa.log2 + 1)
  let lift := if (a.exponent - lift) % 2 = 0 then lift else lift + 1
  let m := a.mantissa * twoTo lift
  let r := floorSqrt m
  cut ⟨r, (a.exponent - lift) / 2, a.exact && r * r == m⟩

/-- The square root, taken `n` times. -/
def sqrtIter : Nat → Approx → Approx
  | 0, a => a
  | n + 1, a => sqrtIter n (sqrt a)

/-- The nearest double, with a sign. What was cut off counts as half a unit of the mantissa. -/
def toFloat (negative : Bool) (a : Approx) : Float :=
  Binary.toFloat <|
    if a.exact then ⟨negative, a.mantissa, a.exponent⟩
    else ⟨negative, 2 * a.mantissa + 1, a.exponent - 1⟩

end Approx

end Quantities.Number
