import Quantities.Grid.Basic

/-!
# Grids number by number

Two grids combine number by number when their extents agree from the last one backwards, where an
extent of one, or one that is missing, stretches to the other one.

* `Grid.commonExtents?` are the extents of the result;
* `Grid.pairs?` are the numbers that belong together, in row order.
-/

namespace Quantities.Grid

/-- The extents that two lists of extents stretch to, all of them with the last one first. -/
def stretch? : List Nat → List Nat → Option (List Nat)
  | [], ns => some ns
  | ms, [] => some ms
  | m :: ms, n :: ns =>
    if m = n ∨ n = 1 then (stretch? ms ns).map fun es => m :: es
    else if m = 1 then (stretch? ms ns).map fun es => n :: es
    else none

/-- The extents of a combination of two grids, if they combine. -/
def commonExtents? (g h : Grid) : Option (List Nat) :=
  (stretch? g.extents.reverse h.extents.reverse).map List.reverse

/-- The numbers in row order of grids with extents `es`, stretched to as many extents `ts`. -/
def stretched {β : Type} : List Nat → List Nat → List β → List β
  | t :: ts, e :: es, xs =>
    (List.range t).flatMap fun i =>
      let j := if e = 1 then 0 else i
      stretched ts es ((xs.drop (j * volume es)).take (volume es))
  | _, _, xs => xs

/-- The numbers of a grid, stretched to extents. -/
def realsIn (ts : List Nat) (g : Grid) : List Float :=
  stretched ts (List.replicate (ts.length - g.extents.length) 1 ++ g.extents) g.cells.toReals

/-- The extents of a combination and the numbers that belong together. -/
def pairs? (g h : Grid) : Option (List Nat × List (Float × Float)) :=
  (commonExtents? g h).map fun ts => (ts, (realsIn ts g).zip (realsIn ts h))

end Quantities.Grid
