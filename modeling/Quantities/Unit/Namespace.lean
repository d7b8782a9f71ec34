import Quantities.Unit.Definition

/-!
# Units by name

A namespace offers the units of a registry as its members: `ft` is one foot. Some names belong to
the namespace itself, and no unit can be defined under them through it.

* `member` is the unit that a member name denotes;
* `defineMember` is a definition through the namespace, which refuses the `reservedNames`;
* `memberNames` are the names that the namespace lists.

Out of scope: what the members of the namespace itself are. They are found before any unit is looked
for, so `member` speaks of names that are neither reserved nor `_reg`, the registry of the namespace.
-/

namespace Quantities.Registry

variable {α : Type} [Scalar α]

/-- The names that the namespace keeps for itself: its own, and those that every object has. Later
runtimes give every object a few more, such as `__firstlineno__`, which are left out. -/
def reservedNames : List String :=
  ["_reserved_names", "define", "__annotations__", "__call__", "__class__", "__contains__",
    "__delattr__", "__dict__", "__dir__", "__doc__", "__eq__", "__format__", "__ge__",
    "__getattr__", "__getattribute__", "__getstate__", "__gt__", "__hash__", "__init__",
    "__init_subclass__", "__le__", "__lt__", "__module__", "__ne__", "__new__", "__reduce__",
    "__reduce_ex__", "__repr__", "__setattr__", "__sizeof__", "__str__", "__subclasshook__",
    "__weakref__"]

/-- One of the unit that a member name denotes, for names that are not the namespace's own. A name
that starts with two underscores or denotes no unit is no member. -/
def member (reg : Registry α) (name : String) : Outcome (Quantity α) :=
  if name.toList.take 2 = ['_', '_'] then .error (.noSuchUnit name)
  else match reg.one name with
    | .ok q => .ok q
    | .error f => .error (if f.kind.isBadValue then .noSuchUnit name else f)

/-- A definition through the namespace. -/
def defineMember (reg : Registry α) (symbol : String) (magnitude : Outcome (Magnitude α))
    (text : Outcome (Option String)) (offset : Outcome α) : Outcome (Registry α) := do
  if reservedNames.contains symbol then .error (.reservedName symbol)
  .ok (← reg.define symbol magnitude text offset).1

/-- The public names of the namespace in ascending order, each once. A name that is no text has no
place in that order. -/
def memberNames (reg : Registry α) : Outcome (List String) := do
  let others ← reg.aliases.mapM fun e =>
    match e.1 with
    | .text s => .ok s
    | .void _ => .error .badSort
  let names := "define" :: (reg.units.map (·.1) ++ others)
  .ok (((names.filter fun n => n.toList.head? ≠ some '_').eraseDups).mergeSort fun a b => a ≤ b)

end Quantities.Registry
