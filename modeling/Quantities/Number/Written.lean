import Quantities.Number.Decimal

/-!
# Written numbers

Numbers are written in two layouts that differ in three points only.

* `exact` has the fewest digits that read back, stays positional below `10^16`, and marks a whole
  number by `.0`;
* `brief` has at most fifteen significant digits, stays positional below `10^15`, and leaves a whole
  number without a mark.

In both, a first digit below `10^-4` moves to an exponent of at least two digits with its sign, and
the values that are no numbers are `nan`, `inf` and `-inf`.

Whole numbers are written with all their digits, of which there may be too many: beyond `digitLimit`
digits a whole number is neither written nor read. `intText` writes every whole number, and
`isWritable` says which of them there is a text for.
-/

namespace Quantities.Number

/-- How the digits of a decimal are laid out. -/
structure Layout where
  /-- The power of ten of the first digit from which on an exponent is written. -/
  positionalBelow : Int
  /-- What follows a whole number that has no exponent. -/
  wholeMark : String

/-- The digits of a whole number. -/
def natText (n : Nat) : String := String.ofList (Nat.toDigits 10 n)

/-- A whole number with its sign, if it is negative. -/
def intText : Int → String
  | .ofNat n => natText n
  | .negSucc n => "-" ++ natText (n + 1)

/-- The longest run of digits that a whole number is written with or read from. -/
def digitLimit : Nat := 4300

/-- Can the whole number be written? Its sign does not count. -/
def isWritable (n : Int) : Bool := (Nat.toDigits 10 n.natAbs).length ≤ digitLimit

/-- The exponent `e` behind the digits. -/
def exponentText (e : Int) : String :=
  let ds := Nat.toDigits 10 e.natAbs
  (if e < 0 then "e-" else "e+") ++ String.ofList (List.replicate (2 - ds.length) '0' ++ ds)

namespace Layout

/-- The decimal in this layout. -/
def write (l : Layout) (d : Decimal) : String :=
  let ds := Nat.toDigits 10 d.coefficient
  let lead : Int := d.exponent + ds.length - 1
  if lead < -4 ∨ l.positionalBelow ≤ lead then
    let tail := if ds.length ≤ 1 then [] else '.' :: ds.drop 1
    String.ofList (ds.take 1 ++ tail) ++ exponentText lead
  else if lead < 0 then
    String.ofList ('0' :: '.' :: List.replicate (-lead - 1).toNat '0' ++ ds)
  else
    let whole := ds.take (lead.toNat + 1)
    let fraction := ds.drop (lead.toNat + 1)
    String.ofList (whole ++ List.replicate (lead.toNat + 1 - ds.length) '0') ++
      if fraction.isEmpty then l.wholeMark else String.ofList ('.' :: fraction)

/-- The layout of numbers that have to read back. -/
def exact : Layout := ⟨16, ".0"⟩

/-- The layout of numbers for a reader. -/
def brief : Layout := ⟨15, ""⟩

end Layout

/-- A double written by `digits`, which gives the decimal of a positive `m·2^q`. -/
def writeWith (l : Layout) (digits : Nat → Int → Decimal) (x : Float) : String :=
  if x.isNaN then "nan"
  else
    let b := Binary.ofFloat x
    (if b.negative then "-" else "") ++
      if x.isInf then "inf"
      else if b.mantissa = 0 then "0" ++ l.wholeMark
      else l.write (digits b.mantissa b.exponent)

/-- The double with the fewest digits that read back. -/
def exactText (x : Float) : String := writeWith .exact Decimal.shortest x

/-- The double with at most fifteen significant digits. -/
def briefText (x : Float) : String := writeWith .brief (Decimal.rounded 15) x

end Quantities.Number
