import Quantities.Unit.Evaluation

/-!
# Growing a registry

* `Registry.define` adds a unit that is a number of units known before;
* `Insertion` is any of the four ways to add something, and `Registry.insert` does it;
* `Registry.insertAll` does several one after the other. It stops at the first one that fails, and
  keeps those before it.

Out of scope: magnitudes, unit strings and offsets of any other sort. `Quantities.Value.Table` reads
them, and `define` is given what came of it, a failure included.
-/

namespace Quantities

variable {α : Type} [Scalar α]

namespace Registry

/-- The unit that is `magnitude` times the unit `text`, with the zero of its scale at `offset` of
itself. All three may be readings that failed, which matters at the point where they are needed. In
messages the unit is called `label`. -/
def derivedUnit (reg : Registry α) (symbol label : String) (magnitude : Outcome (Magnitude α))
    (text : Outcome (Option String)) (offset : Outcome α) : Outcome (UnitEntry α) := do
  let text ← text
  let q ← reg.quantity magnitude text
  match q.magnitude with
  | .array _ => .error (.arrayDefinition label)
  | .scalar scale =>
    if q.hasOffset then .error (.definedFromOffset label (text.getD ""))
    UnitEntry.make symbol scale q.dimension ((← offset) * scale)

/-- The entry that a definition adds. A symbol that is in use is refused before anything is read. -/
def definition (reg : Registry α) (symbol : String) (magnitude : Outcome (Magnitude α))
    (text : Outcome (Option String)) (offset : Outcome α) : Outcome (UnitEntry α) := do
  reg.checkFree (.text (normalize symbol))
  reg.derivedUnit (normalize symbol) symbol magnitude text offset

/-- The registry with a unit that is defined by others, and the entry of that unit. -/
def define (reg : Registry α) (symbol : String) (magnitude : Outcome (Magnitude α))
    (text : Outcome (Option String)) (offset : Outcome α) :
    Outcome (Registry α × UnitEntry α) := do
  let e ← reg.definition symbol magnitude text offset
  .ok (← reg.register e, e)

end Registry

/-- Something to add to a registry. -/
inductive Insertion (α : Type) where
  | unit (symbol : String) (scale : α) (dimension : Dimension) (offset : α)
  | otherName (name : Name) (target : String)
  | prefixFactor (symbol : String) (factor : α)
  | definition (symbol : String) (magnitude : Magnitude α) (text : Option String) (offset : α)
deriving Repr

namespace Registry

/-- The registry with one thing more. -/
def insert (reg : Registry α) : Insertion α → Outcome (Registry α)
  | .unit symbol scale dimension offset => do
    reg.register (← UnitEntry.make symbol scale dimension offset)
  | .otherName name target => reg.registerName name target
  | .prefixFactor symbol factor => reg.registerPrefix symbol factor
  | .definition symbol magnitude text offset => do
    .ok (← reg.define symbol (.ok magnitude) (.ok text) (.ok offset)).1

/-- The registry after all insertions up to the first one that cannot be read or fails, and that
failure. -/
def insertAll (reg : Registry α) : List (Outcome (Insertion α)) → Registry α × Outcome Unit
  | [] => (reg, .ok ())
  | step :: steps =>
    match step >>= reg.insert with
    | .ok reg' => reg'.insertAll steps
    | .error f => (reg, .error f)

end Registry

end Quantities
