import Quantities.Text.Blank
import Quantities.Text.Digit

/-!
# Reading numerals

* `Numeral` is a decimal with a sign, and `Numeral.toFloat` the double nearest to it;
* `readFloat?` reads a numeral written by hand: digits of any script, which single underscores may
  group, a point, an exponent, or the words for the values that are no numbers, in letters of either
  case, with blanks around it;
* `readWhole?` reads a whole number with an optional sign.
-/

namespace Quantities.Number

open Quantities.Text

/-- The number `±coefficient·10^exponent`. -/
structure Numeral where
  negative : Bool
  coefficient : Nat
  exponent : Int
deriving DecidableEq, Repr

namespace Numeral

/-- The nearest double, infinite beyond the range. The first digit decides about numbers that are
far out of range, so no large power of ten is ever built. -/
def toFloat (n : Numeral) : Float :=
  let size := n.exponent + (Nat.toDigits 10 n.coefficient).length
  let x : Float :=
    if n.coefficient = 0 ∨ size < -400 then 0.0
    else if 400 < size then 1.0 / 0.0
    else Float.ofScientific n.coefficient (n.exponent < 0) n.exponent.natAbs
  if n.negative then -x else x

end Numeral

/-- The digits at the start of a text, where an underscore may stand between two digits, and the
rest. -/
def groupedDigits : List Char → List Char × List Char
  | '_' :: d :: cs =>
    if isDigit d then groupedDigits (d :: cs) else ([], '_' :: d :: cs)
  | c :: cs =>
    if isDigit c then (c :: (groupedDigits cs).1, (groupedDigits cs).2) else ([], c :: cs)
  | [] => ([], [])

/-- The digits at the start of a text, of which the first one must be a digit. -/
def digitRun (cs : List Char) : List Char × List Char :=
  if cs.head? = some '_' then ([], cs) else groupedDigits cs

/-- A sign at the start of a text, `true` for a minus, and the rest. -/
def signOf : List Char → Bool × List Char
  | '+' :: cs => (false, cs)
  | '-' :: cs => (true, cs)
  | cs => (false, cs)

/-- The number that digits denote; the digits are known to be some. -/
def digitsValue (ds : List Char) : Nat := (numeralValue? ds).getD 0

/-- The exponent that fills the rest of a numeral; none is zero. -/
def exponentOf? : List Char → Option Int
  | [] => some 0
  | c :: cs =>
    if c = 'e' ∨ c = 'E' then
      let (minus, cs) := signOf cs
      let (ds, rest) := digitRun cs
      if ds.isEmpty || !rest.isEmpty then none
      else some (if minus then -(digitsValue ds : Int) else digitsValue ds)
    else none

/-- The numeral behind its sign: whole digits, a fraction behind a point, an exponent. One of the
digit runs may be missing. -/
def unsigned? (negative : Bool) (cs : List Char) : Option Numeral :=
  let (whole, rest) := digitRun cs
  let (fraction, rest) := match rest with
    | '.' :: cs => digitRun cs
    | cs => ([], cs)
  if whole.isEmpty && fraction.isEmpty then none
  else (exponentOf? rest).map fun e =>
    ⟨negative, digitsValue (whole ++ fraction), e - fraction.length⟩

/-- The blanks that may surround a numeral: the basic ones, without the information separators, and
those of the other scripts. -/
def isMargin (c : Char) : Bool := isBlank c && !(0x1C ≤ c.toNat && c.toNat ≤ 0x1F)

/-- The double that a text denotes. -/
def readFloat? (s : String) : Option Float :=
  let (negative, cs) := signOf (trim isMargin s.toList)
  let word := String.ofList (cs.map Char.toLower)
  if word = "inf" ∨ word = "infinity" then some (if negative then -1.0 / 0.0 else 1.0 / 0.0)
  else if word = "nan" then some (0.0 / 0.0)
  else (unsigned? negative cs).map Numeral.toFloat

/-- The whole number that a text denotes: an optional sign and at least one digit. -/
def readWhole? (cs : List Char) : Option Int :=
  let (negative, ds) := signOf cs
  if ds.isEmpty then none
  else (numeralValue? ds).map fun n => if negative then -(n : Int) else n

end Quantities.Number
