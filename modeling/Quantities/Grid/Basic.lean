import Quantities.Number.Written

/-!
# Grids

A grid is a rectangular array of numbers of one sort, with any number of extents. It is what an
operand that is already an array consists of, and what a comparison of lists gives. A magnitude is
made of one when it has a single extent.

* `Cell` is one number of a grid, `Cells` are all of them in row order;
* `Grid.rows` cuts a grid along its first extent;
* `Grid.only?` is the number of a grid that has just one.
-/

namespace Quantities

/-- A number of one of the sorts that grids are made of. -/
inductive Cell where
  | real (x : Float)
  | integer (n : Int)
  | truth (b : Bool)

/-- Numbers of one sort, in order. -/
inductive Cells where
  | reals (xs : List Float)
  | integers (ns : List Int)
  | truths (bs : List Bool)

/-- A rectangular array: its extents, and its numbers in row order. -/
structure Grid where
  extents : List Nat
  cells : Cells

namespace Cell

/-- The number as a double. -/
def toReal : Cell → Float
  | real x => x
  | integer n => Float.ofInt n
  | truth b => if b then 1.0 else 0.0

/-- Is the number zero? -/
def isZero (c : Cell) : Bool := c.toReal == 0.0

/-- The number with the other sign; a truth value has none. -/
def negate? : Cell → Option Cell
  | real x => some (real (-x))
  | integer n => some (integer (-n))
  | truth _ => none

/-- The number without a mark of its sort. -/
def text : Cell → String
  | real x => Number.exactText x
  | integer n => Number.intText n
  | truth b => if b then "True" else "False"

end Cell

namespace Cells

/-- The numbers one by one. -/
def toList : Cells → List Cell
  | reals xs => xs.map .real
  | integers ns => ns.map .integer
  | truths bs => bs.map .truth

/-- The numbers as doubles. -/
def toReals (cs : Cells) : List Float := cs.toList.map Cell.toReal

/-- How many numbers there are. -/
def length (cs : Cells) : Nat := cs.toList.length

/-- The numbers that a choice of places leaves. -/
def select (choose : ∀ {β : Type}, List β → List β) : Cells → Cells
  | reals xs => reals (choose xs)
  | integers ns => integers (choose ns)
  | truths bs => truths (choose bs)

/-- The numbers with the other sign; truth values have none. -/
def negate? : Cells → Option Cells
  | reals xs => some (reals (xs.map fun x => -x))
  | integers ns => some (integers (ns.map fun n => -n))
  | truths _ => none

/-- The word for the sort of the numbers. -/
def sort : Cells → String
  | reals _ => "float64"
  | integers _ => "int64"
  | truths _ => "bool"

end Cells

namespace Grid

/-- How many numbers extents make room for. -/
def volume (extents : List Nat) : Nat := extents.foldl (· * ·) 1

/-- Extents in parentheses; a single one is followed by a comma. -/
def extentsText : List Nat → String
  | [] => "()"
  | [n] => "(" ++ Number.natText n ++ ",)"
  | ns => "(" ++ ", ".intercalate (ns.map Number.natText) ++ ")"

/-- A list of doubles. -/
def ofReals (xs : List Float) : Grid := ⟨[xs.length], .reals xs⟩

/-- How many numbers the grid has. -/
def size (g : Grid) : Nat := g.cells.length

/-- The grids along the first extent. -/
def rows (g : Grid) : List Grid :=
  match g.extents with
  | [] => []
  | n :: ns =>
    (List.range n).map fun i =>
      ⟨ns, g.cells.select fun xs => (xs.drop (i * volume ns)).take (volume ns)⟩

/-- The number of a grid that has just one. -/
def only? (g : Grid) : Option Cell :=
  match g.cells.toList with
  | [c] => some c
  | _ => none

/-- The grid with the other sign; truth values have none. -/
def negate? (g : Grid) : Option Grid := g.cells.negate?.map fun cs => { g with cells := cs }

end Grid

end Quantities
