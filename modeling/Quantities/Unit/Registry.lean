import Quantities.Failure
import Quantities.Number.Scalar
import Quantities.Unit.Name

/-!
# Registries of units

A registry knows units by their symbols, other names for them, and prefixes. It only ever grows: an
insertion adds one key to one of the three tables or fails, and no key is ever changed or removed.

* `UnitEntry` is a unit: one of it is `scale` coherent units, and its scale starts at `offset`. A
  unit may be registered in a form of which no quantity can be made, and then says why;
* `Registry.lookupUnit` and `Registry.lookupPrefix` find what a symbol stands for, after
  `normalize`;
* `Registry.register`, `Registry.registerName` and `Registry.registerPrefix` insert.

Out of scope: several threads on one registry. An insertion is a single step here, from the check of
its key to the new table, and every look-up sees a whole registry.
-/

namespace Quantities

/-- How one of a unit is given: by a number, by a list of one number, or not at all. -/
inductive UnitForm where
  | number
  | list
  | unusable (cause : Failure)
deriving DecidableEq, Repr

/-- A unit, in coherent units of its dimension. -/
structure UnitEntry (α : Type) where
  symbol : String
  scale : α
  dimension : Dimension
  offset : α
  form : UnitForm := .number
deriving DecidableEq, Repr

/-- The units, their other names, and the prefixes, each in the order of insertion. -/
structure Registry (α : Type) where
  units : List (String × UnitEntry α)
  aliases : List (Name × String)
  prefixes : List (String × α)
deriving Repr

namespace UnitEntry

variable {α : Type} [Scalar α]

/-- A unit, if its scale is positive and finite and its offset finite. -/
def make (symbol : String) (scale : α) (dimension : Dimension) (offset : α) :
    Outcome (UnitEntry α) :=
  if !Scalar.isFactor scale then .error (.invalidScale symbol)
  else if !Scalar.isFinite offset then .error (.invalidOffset symbol)
  else .ok { symbol, scale, dimension, offset }

end UnitEntry

namespace Registry

variable {α : Type}

/-- The registry that knows nothing. -/
def empty : Registry α := ⟨[], [], []⟩

/-! ## Look-up -/

/-- The number of units. -/
def size (reg : Registry α) : Nat := reg.units.length

/-- The symbol that another name stands for. -/
def target? (reg : Registry α) (name : Name) : Option String :=
  (reg.aliases.find? fun e => e.1.isSame name).map (·.2)

/-- The unit with a stored symbol. -/
def unitAt? (reg : Registry α) (name : Name) : Option (UnitEntry α) :=
  name.text?.bind fun symbol => reg.units.lookup symbol

/-- The unit that a name stands for, as another name or as its symbol. -/
def lookupName (reg : Registry α) (name : Name) : Option (UnitEntry α) :=
  match reg.target? name.normalized with
  | some symbol => reg.units.lookup symbol
  | none => reg.unitAt? name.normalized

/-- The unit that a symbol stands for, directly or as another name. -/
def lookupUnit (reg : Registry α) (symbol : String) : Option (UnitEntry α) :=
  reg.lookupName (.text symbol)

/-- The factor of a prefix. -/
def lookupPrefix (reg : Registry α) (symbol : String) : Option α :=
  reg.prefixes.lookup (normalize symbol)

/-- Does the symbol stand for a unit? -/
def has (reg : Registry α) (symbol : String) : Bool := (reg.lookupUnit symbol).isSome

/-- The unit that a symbol stands for; fails when there is none. -/
def get (reg : Registry α) (symbol : String) : Outcome (UnitEntry α) :=
  match reg.lookupUnit symbol with
  | some e => .ok e
  | none => .error (.unknownSymbol symbol)

/-! ## Insertion -/

/-- Refuses a stored name that is in use. -/
def checkFree (reg : Registry α) (name : Name) : Outcome Unit :=
  if (reg.unitAt? name).isSome then .error (.duplicateUnit name.shown)
  else if (reg.target? name).isSome then .error (.duplicateAlias name.shown)
  else .ok ()

/-- The registry with one more unit, stored under its normalized symbol. -/
def register (reg : Registry α) (e : UnitEntry α) : Outcome (Registry α) := do
  let symbol := normalize e.symbol
  if symbol = "" then .error .emptySymbol
  reg.checkFree (.text symbol)
  .ok { reg with units := reg.units ++ [(symbol, { e with symbol })] }

/-- The registry with another name for a unit. -/
def registerName (reg : Registry α) (name : Name) (target : String) : Outcome (Registry α) := do
  let symbol := normalize target
  if (reg.units.lookup symbol).isNone then .error (.unknownTarget name.shown target)
  reg.checkFree name.normalized
  .ok { reg with aliases := reg.aliases ++ [(name.normalized, symbol)] }

/-- The registry with one more prefix. -/
def registerPrefix [Scalar α] (reg : Registry α) (symbol : String) (factor : α) :
    Outcome (Registry α) := do
  let key := normalize symbol
  if key = "" then .error .emptyPrefix
  if !Scalar.isFactor factor then .error (.invalidFactor symbol)
  if (reg.prefixes.lookup key).isSome then .error (.duplicatePrefix key)
  .ok { reg with prefixes := reg.prefixes ++ [(key, factor)] }

end Registry

end Quantities
