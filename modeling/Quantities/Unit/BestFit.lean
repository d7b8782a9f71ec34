import Quantities.Unit.Conversion

/-!
# The best fit in a list of units

A dimension is expressed in given units by always taking the unit, or its reciprocal, that leaves
the least dimensionality. Where several leave the same, the first one in the list is taken, and its
reciprocal before itself.

* `decompose` is that search: the powers of the units, in the order of their first use;
* `renderPowers` writes powers as a unit string;
* `Quantity.fit` is both, and the value in the unit string found.

Out of scope: powers of more than `Number.digitLimit` digits, which have no text, although
`renderPowers` gives them one. A search takes as many steps as its powers say, so none ends there.
-/

namespace Quantities

/-- A unit that can be taken, by its unit string, and its dimension. -/
abbrev Candidate := String × Dimension

namespace BestFit

/-! ## One step -/

/-- A unit taken to the power −1 or 1, and the dimension that is left. -/
structure Step where
  unit : String
  sign : Int
  rest : Dimension
deriving DecidableEq, Repr

/-- The two ways to take a unit off a dimension. -/
def stepsOf (d : Dimension) (c : Candidate) : List Step :=
  [⟨c.1, -1, d / c.2 ^ (-1 : Int)⟩, ⟨c.1, 1, d / c.2 ^ (1 : Int)⟩]

/-- The better of two steps, the first one unless the second leaves less. -/
def better (s t : Step) : Step :=
  if t.rest.dimensionality < s.rest.dimensionality then t else s

/-- The first of the best steps. -/
def best? (cs : List Candidate) (d : Dimension) : Option Step :=
  match cs.flatMap (stepsOf d) with
  | [] => none
  | s :: ss => some (ss.foldl better s)

/-! ## The search -/

/-- Powers of units with one power changed; a unit that is new comes last. -/
def addPower (unit : String) (n : Int) : List (String × Int) → List (String × Int)
  | [] => [(unit, n)]
  | (u, p) :: ps => if u = unit then (u, p + n) :: ps else (u, p) :: addPower unit n ps

/-- The powers that take up a dimension, added to powers found before. Every step must leave less
than there was. -/
def search? (cs : List Candidate) (d : Dimension) (powers : List (String × Int)) :
    Option (List (String × Int)) :=
  if d.dimensionality = 0 then some powers
  else match best? cs d with
    | none => none
    | some s =>
      if s.rest.dimensionality < d.dimensionality then
        search? cs s.rest (addPower s.unit s.sign powers)
      else none
termination_by d.dimensionality

/-- The powers of the units whose product has the dimension, without those that have
cancelled out. -/
def powersOf? (cs : List Candidate) (d : Dimension) : Option (List (String × Int)) :=
  (search? cs d []).map fun ps => ps.filter fun p => p.2 ≠ 0

/-! ## Unit strings of powers -/

/-- A unit with a positive power. -/
def termText (unit : String) (power : Nat) : String :=
  if power = 1 then unit else unit ++ "^" ++ Number.natText power

/-- A product of units, the number one if there are none. -/
def sectionText (terms : List String) : String :=
  if terms.isEmpty then "1" else " ".intercalate terms

/-- Powers of units as a unit string: the positive ones, and behind a slash the negative ones. -/
def renderPowers (powers : List (String × Int)) : String :=
  let numerator := (powers.filter fun p => 0 < p.2).map fun p => termText p.1 p.2.natAbs
  let denominator := (powers.filter fun p => p.2 < 0).map fun p => termText p.1 p.2.natAbs
  if denominator.isEmpty then sectionText numerator
  else sectionText numerator ++ " / " ++ " ".intercalate denominator

end BestFit

/-! ## Against a registry -/

variable {α : Type} [Scalar α]

namespace Registry

/-- The dimensions of unit strings. -/
def candidates (reg : Registry α) (units : List String) : Outcome (List Candidate) :=
  units.mapM fun u => do .ok (u, (← reg.parse u).dimension)

/-- The powers of the given units that make up a dimension. -/
def decompose (reg : Registry α) (d : Dimension) (units : List String) :
    Outcome (List (String × Int)) := do
  match BestFit.powersOf? (← reg.candidates units) d with
  | some powers => .ok powers
  | none => .error (.showing d.toList (.insufficientUnits d.text (units.map some)))

end Registry

/-- The value of a quantity in the best combination of the given units, and that combination. -/
def Quantity.fit (q : Quantity α) (reg : Registry α) (units : List String) :
    Outcome (Magnitude α × String) := do
  let text := BestFit.renderPowers (← reg.decompose q.dimension units)
  .ok (← q.valueIn reg text, text)

end Quantities
