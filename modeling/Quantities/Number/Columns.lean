import Quantities.Number.Written

/-!
# Numbers in columns

Numbers that are shown together are written alike, with points below each other. They have at most
eight places behind the point, as few as read back, and a point even when nothing follows it.

* All of them have an exponent when one of them is too large or too small for positional writing,
  or when the largest is over a thousand times the smallest. Zeros do not count in this;
* the digits are flush with the point: positional numbers are filled with blanks on both sides,
  numbers with an exponent with zeros behind the point and in the exponent;
* infinite and undefined values stand flush right.

`columnTexts` writes numbers in this way, all of one width.

Out of scope: a layout of the user's choice, with other limits than those above.
-/

namespace Quantities.Number

/-- A number that is cut at its point. The whole part has the sign, and there may be an exponent. -/
structure Pieces where
  whole : List Char
  fraction : List Char
  exponent : Option Int

/-- The most places behind the point. -/
def placeLimit : Nat := 8

namespace Decimal

/-- The decimal nearest to `m·2^q` with at most `places` places behind the point. -/
def fixed (places m : Nat) (q : Int) : Decimal :=
  stripZeros (places + 1)
    ⟨nearestQuotient (m * twoTo q * tenTo places) (twoTo (-q)), -(places : Int)⟩

/-- The fewest digits that read back, but not more than `places` places behind the point. -/
def inPlaces (places m : Nat) (q : Int) : Decimal :=
  let d := shortest m q
  if -(places : Int) ≤ d.exponent then d else fixed places m q

/-- The fewest digits that read back, but not more than `count` of them. -/
def inDigits (count m : Nat) (q : Int) : Decimal :=
  let d := shortest m q
  if digitCount d.coefficient ≤ count then d else rounded count m q

end Decimal

namespace Pieces

/-- The sign of a double, if it is negative. -/
def signOf (x : Float) : List Char := if (Binary.ofFloat x).negative then ['-'] else []

/-- A finite double in positional writing. -/
def positional (x : Float) : Pieces :=
  let b := Binary.ofFloat x
  if b.mantissa = 0 then ⟨signOf x ++ ['0'], [], none⟩
  else
    let d := Decimal.inPlaces placeLimit b.mantissa b.exponent
    let unit := tenTo (-d.exponent)
    let whole := d.coefficient * tenTo d.exponent / unit
    let digits := Nat.toDigits 10 (d.coefficient % unit)
    let fraction := List.replicate ((-d.exponent).toNat - digits.length) '0' ++ digits
    ⟨signOf x ++ Nat.toDigits 10 whole, if d.exponent < 0 then fraction else [], none⟩

/-- A finite double with an exponent. -/
def scientific (x : Float) : Pieces :=
  let b := Binary.ofFloat x
  if b.mantissa = 0 then ⟨signOf x ++ ['0'], [], some 0⟩
  else
    let d := Decimal.inDigits (placeLimit + 1) b.mantissa b.exponent
    let digits := Nat.toDigits 10 d.coefficient
    ⟨signOf x ++ digits.take 1, digits.drop 1, some (d.exponent + digits.length - 1)⟩

end Pieces

/-- Do numbers need exponents? -/
def needExponents (xs : List Float) : Bool :=
  match (xs.filter fun x => x.isFinite && x != 0.0).map Float.abs with
  | [] => false
  | y :: ys =>
    let largest := ys.foldl (fun a b => if a < b then b else a) y
    let smallest := ys.foldl (fun a b => if b < a then b else a) y
    100000000.0 ≤ largest || smallest < 0.0001 || 1000.0 < largest / smallest

/-- The widths of a column. -/
structure Widths where
  whole : Nat
  fraction : Nat
  exponent : Nat

namespace Widths

/-- The largest of some lengths. -/
def largest (ns : List Nat) : Nat := ns.foldl max 0

/-- The widths that pieces need. An exponent has two digits or more. -/
def ofPieces (ps : List Pieces) : Widths where
  whole := largest (ps.map fun p => p.whole.length)
  fraction := largest (ps.map fun p => p.fraction.length)
  exponent := largest (ps.map fun p =>
    match p.exponent with
    | none => 0
    | some e => max 2 (Nat.toDigits 10 e.natAbs).length)

/-- The characters from the point on. -/
def behind (w : Widths) : Nat :=
  1 + w.fraction + if w.exponent = 0 then 0 else 2 + w.exponent

/-- All characters of a column that holds these texts beside its finite numbers. -/
def total (w : Widths) (others : List (List Char)) : Nat :=
  max (w.whole + w.behind) (largest (others.map List.length))

end Widths

/-- Text that ends in column `width`. -/
def flushRight (width : Nat) (cs : List Char) : List Char :=
  List.replicate (width - cs.length) ' ' ++ cs

/-- A finite number in a column. -/
def Pieces.inColumn (p : Pieces) (w : Widths) (width : Nat) : List Char :=
  flushRight (width - w.behind) p.whole ++ '.' ::
    match p.exponent with
    | none => p.fraction ++ List.replicate (w.fraction - p.fraction.length) ' '
    | some e =>
      let digits := Nat.toDigits 10 e.natAbs
      p.fraction ++ List.replicate (w.fraction - p.fraction.length) '0' ++
        'e' :: (if e < 0 then '-' else '+') :: List.replicate (w.exponent - digits.length) '0' ++
        digits

/-- The text of a value that is infinite or undefined. -/
def otherText (x : Float) : List Char := (exactText x).toList

/-- Numbers as a column of texts of one width. -/
def columnTexts (xs : List Float) : List (List Char) :=
  let pieces := if needExponents xs then Pieces.scientific else Pieces.positional
  let finite := xs.filter Float.isFinite
  let widths := Widths.ofPieces (finite.map pieces)
  let width := widths.total ((xs.filter fun x => !x.isFinite).map otherText)
  xs.map fun x =>
    if x.isFinite then (pieces x).inColumn widths width else flushRight width (otherText x)

end Quantities.Number
