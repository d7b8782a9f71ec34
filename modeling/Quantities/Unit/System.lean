import Quantities.Quantity.Text
import Quantities.Unit.BestFit

/-!
# Systems of units

Three lists of units to express quantities in, and the text of a quantity in one of them or in a
unit of choice.
-/

namespace Quantities

/-- The systems of units that quantities are shown in. -/
inductive UnitSystem where
  | si | cgs | us
deriving DecidableEq, Repr

namespace UnitSystem

/-- The unit strings of a system, in the order of preference. -/
def units : UnitSystem → List String
  | si =>
    ["[k]g", "m", "s", "K", "A", "mol", "cd", "bit", "rad", "Hz", "N", "Pa", "J", "W", "C", "V",
     "F", "ohm", "S", "Wb", "T", "H", "lm", "lx", "Bq", "Gy"]
  | cgs => ["g", "[c]m", "s", "deltaC", "dyn", "erg", "Ba", "P", "St"]
  | us => ["lbm", "ft", "s", "Ra", "gal", "lbf", "BTU", "HP"]

end UnitSystem

namespace Quantity

/-- A magnitude with its unit; the number one is not written. -/
def withUnitText (m : Magnitude Float) (unit : String) : String :=
  if unit = "1" then m.text else m.text ++ " " ++ unit

/-- The quantity in a system of units. -/
def inSystem {α : Type} [Scalar α] (q : Quantity α) (reg : Registry α) (s : UnitSystem) :
    Outcome (Magnitude α × String) :=
  q.fit reg s.units

/-- The quantity in a unit, as text. -/
def showIn (q : Quantity Float) (reg : Registry Float) (unit : String) : Outcome String := do
  .ok (withUnitText (← q.valueIn reg unit) unit)

/-- The quantity in a system of units, as text. -/
def showInSystem (q : Quantity Float) (reg : Registry Float) (s : UnitSystem) : Outcome String := do
  let (m, unit) ← q.inSystem reg s
  .ok (withUnitText m unit)

/-- The quantity as a format asks for it: a system by its name in letters of either case, `si` when
the format is blank, and otherwise a unit. -/
def showAs (q : Quantity Float) (reg : Registry Float) (format : String) : Outcome String :=
  let format := Text.strip format.toList
  match String.ofList (format.map Char.toLower) with
  | "" | "si" => q.showInSystem reg .si
  | "cgs" => q.showInSystem reg .cgs
  | "us" => q.showInSystem reg .us
  | _ => q.showIn reg (String.ofList format)

end Quantity

end Quantities
