import Quantities.Failure
import Quantities.Text.Capital

/-!
# Dimensions by name

A dimension can be given by the names of its base dimensions, in letters of either case, with their
exponents. A name that is left out has the exponent zero, and of several entries for one base
dimension the last one counts.

* `Dimension.ofNamed` reads such entries, whose exponents may still have to be read themselves;
* `Dimension.toNamed` lists the nonzero exponents in the order of the base dimensions.
-/

namespace Quantities

/-- The base dimension that a name denotes. -/
def BaseDimension.ofName? (s : String) : Option BaseDimension :=
  all.find? fun b => Text.capitals b.name == Text.capitals s

namespace Dimension

variable {β : Type}

/-- The dimension with exponents that are read in the order of the base dimensions. -/
def readExponents (f : BaseDimension → Outcome Int) : Outcome Dimension := do
  .ok {
    mass := ← f .mass
    length := ← f .length
    time := ← f .time
    temperature := ← f .temperature
    current := ← f .current
    substance := ← f .substance
    luminosity := ← f .luminosity
    information := ← f .information
    rotation := ← f .rotation }

/-- The last entry for a base dimension. -/
def lastNamed? (es : List (String × β)) (b : BaseDimension) : Option β :=
  (es.reverse.find? fun e => BaseDimension.ofName? e.1 == some b).map (·.2)

/-- Refuses a name that denotes no base dimension. -/
def checkNames (es : List (String × β)) : Outcome Unit :=
  match es.find? fun e => (BaseDimension.ofName? e.1).isNone with
  | none => .ok ()
  | some e => .error (.unknownDimension e.1)

/-- The dimension with named exponents, each of which `read` reads. All names are judged first. -/
def ofNamed (read : β → Outcome Int) (es : List (String × β)) : Outcome Dimension := do
  checkNames es
  readExponents fun b =>
    match lastNamed? es b with
    | none => .ok 0
    | some v => read v

/-- The nonzero exponents with their names. -/
def toNamed (d : Dimension) : List (String × Int) :=
  (BaseDimension.all.filter fun b => d.exponent b ≠ 0).map fun b => (b.name, d.exponent b)

end Dimension

end Quantities
