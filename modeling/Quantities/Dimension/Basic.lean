/-!
# Dimensions

The dimension of a quantity is a product of integer powers of nine base dimensions. Dimensions form
a free abelian group, written multiplicatively: `d * e` adds exponents, `d / e` subtracts them,
`d⁻¹` negates them and `d ^ n` multiplies them by `n`.

* `BaseDimension` are the nine axes;
* `Dimension` holds an exponent for each of them;
* `Dimension.root?` divides all exponents, where that leaves integers;
* `Dimension.dimensionality` is the sum of the absolute exponents, the distance to `1`.
-/

namespace Quantities

/-- The base dimensions. -/
inductive BaseDimension where
  | mass | length | time | temperature | current | substance | luminosity | information | rotation
deriving DecidableEq, Repr

namespace BaseDimension

/-- The base dimensions in their order. -/
def all : List BaseDimension :=
  [mass, length, time, temperature, current, substance, luminosity, information, rotation]

/-- The name of a base dimension. -/
def name : BaseDimension → String
  | mass => "mass"
  | length => "length"
  | time => "time"
  | temperature => "temperature"
  | current => "current"
  | substance => "substance"
  | luminosity => "luminosity"
  | information => "information"
  | rotation => "rotation"

/-- The letter that stands for a base dimension in written dimensions. -/
def letter : BaseDimension → Char
  | mass => 'M'
  | length => 'L'
  | time => 'T'
  | temperature => 'Θ'
  | current => 'I'
  | substance => 'N'
  | luminosity => 'J'
  | information => 'B'
  | rotation => 'R'

end BaseDimension

/-- A product of powers of the base dimensions, given by its exponents. -/
@[ext]
structure Dimension where
  mass : Int := 0
  length : Int := 0
  time : Int := 0
  temperature : Int := 0
  current : Int := 0
  substance : Int := 0
  luminosity : Int := 0
  information : Int := 0
  rotation : Int := 0
deriving DecidableEq, Repr, Inhabited

namespace Dimension

/-- The exponent of a base dimension. -/
def exponent (d : Dimension) : BaseDimension → Int
  | .mass => d.mass
  | .length => d.length
  | .time => d.time
  | .temperature => d.temperature
  | .current => d.current
  | .substance => d.substance
  | .luminosity => d.luminosity
  | .information => d.information
  | .rotation => d.rotation

/-- The dimension with given exponents. -/
def ofExponents (f : BaseDimension → Int) : Dimension where
  mass := f .mass
  length := f .length
  time := f .time
  temperature := f .temperature
  current := f .current
  substance := f .substance
  luminosity := f .luminosity
  information := f .information
  rotation := f .rotation

@[simp] theorem exponent_ofExponents (f : BaseDimension → Int) (b : BaseDimension) :
    (ofExponents f).exponent b = f b := by
  cases b <;> rfl

@[simp] theorem ofExponents_exponent (d : Dimension) : ofExponents d.exponent = d := rfl

/-- Two dimensions with the same exponents are the same. -/
theorem ext_exponent {d e : Dimension} (h : ∀ b, d.exponent b = e.exponent b) : d = e := by
  rw [← ofExponents_exponent d, ← ofExponents_exponent e, funext h]

/-- The exponents in the order of the base dimensions. -/
def toList (d : Dimension) : List Int := BaseDimension.all.map d.exponent

/-! ## The group -/

instance : One Dimension := ⟨{}⟩

instance : Mul Dimension := ⟨fun d e => ofExponents fun b => d.exponent b + e.exponent b⟩

instance : Div Dimension := ⟨fun d e => ofExponents fun b => d.exponent b - e.exponent b⟩

instance : Inv Dimension := ⟨fun d => ofExponents fun b => -d.exponent b⟩

instance : Pow Dimension Int := ⟨fun d n => ofExponents fun b => d.exponent b * n⟩

@[simp] theorem exponent_one (b : BaseDimension) : (1 : Dimension).exponent b = 0 := by
  cases b <;> rfl

@[simp] theorem exponent_mul (d e : Dimension) (b : BaseDimension) :
    (d * e).exponent b = d.exponent b + e.exponent b :=
  exponent_ofExponents _ b

@[simp] theorem exponent_div (d e : Dimension) (b : BaseDimension) :
    (d / e).exponent b = d.exponent b - e.exponent b :=
  exponent_ofExponents _ b

@[simp] theorem exponent_inv (d : Dimension) (b : BaseDimension) :
    (d⁻¹).exponent b = -d.exponent b :=
  exponent_ofExponents _ b

@[simp] theorem exponent_pow (d : Dimension) (n : Int) (b : BaseDimension) :
    (d ^ n).exponent b = d.exponent b * n :=
  exponent_ofExponents _ b

/-- The dimension whose power with exponent `n` is `d`, if every exponent of `d` is a multiple of `n
≠ 0`. -/
def root? (d : Dimension) (n : Int) : Option Dimension :=
  if n ≠ 0 ∧ d.toList.all (fun e => e % n == 0) then
    some (ofExponents fun b => d.exponent b / n)
  else none

/-! ## Size -/

/-- Is the dimension that of a pure number? -/
def isDimensionless (d : Dimension) : Bool := d == 1

/-- The number of base dimensions that are multiplied or divided by. -/
def dimensionality (d : Dimension) : Nat :=
  d.mass.natAbs + d.length.natAbs + d.time.natAbs + d.temperature.natAbs + d.current.natAbs +
    d.substance.natAbs + d.luminosity.natAbs + d.information.natAbs + d.rotation.natAbs

@[simp] theorem dimensionality_one : dimensionality 1 = 0 := rfl

/-- Only the dimension of pure numbers has dimensionality zero. -/
theorem dimensionality_eq_zero_iff {d : Dimension} : d.dimensionality = 0 ↔ d = 1 := by
  constructor
  · intro h
    simp only [dimensionality, Nat.add_eq_zero_iff, Int.natAbs_eq_zero] at h
    ext <;> simp [h] <;> rfl
  · rintro rfl
    rfl

end Dimension

end Quantities
