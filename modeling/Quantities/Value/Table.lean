import Quantities.Value.Dimensions
import Quantities.Value.Document
import Quantities.Value.Naming

/-!
# Tables of units

A table is a value that describes insertions into a registry: the rows and pairs that a program puts
together, or a document of prefixes and units in which every unit has a scale, named dimensions, an
offset and other names.

* `Table.ofDocument` and `Table.ofRows` list the insertions in order. Each of them is read when its
  turn comes, so what was inserted before it stays;
* `Registry.load` and `Registry.populate` carry them out;
* `Registry.registerValues`, `Registry.registerNameValue`, `Registry.registerPrefixValue` and
  `Registry.defineValues` insert one thing.
-/

namespace Quantities

/-- Insertions that are still to be read, in order. -/
abbrev Table := List (Outcome (Insertion Float))

namespace Table

/-! ## Documents -/

/-- The member of a table with a name, or another value where there is none. A value that is no
table has no members. -/
def memberOr (v : Value) (name : String) (other : Value) : Outcome Value :=
  match v with
  | .mapping es => .ok ((es.lookup name).getD other)
  | _ => .error .missingMember

/-- The entries of a table. -/
def entries (v : Value) : Outcome (List (String × Value)) :=
  match v with
  | .mapping es => .ok es
  | _ => .error .missingMember

/-- Is the text `scale` in the value? -/
def hasScale : Value → Outcome Bool
  | .mapping es => .ok (es.lookup "scale").isSome
  | .list vs => .ok (vs.any fun v => match v with | .text s => s == "scale" | _ => false)
  | .text s => .ok ((s.splitOn "scale").length != 1)
  | _ => .error .badSort

/-- The unit that an entry of the table describes. -/
def unitOf (symbol : String) (spec : Value) : Outcome (Insertion Float) := do
  if !(← hasScale spec) then .error (.missingScale symbol)
  let d ← (← memberOr spec "dimensions" (.mapping [])).namedDimension
  let scale ← (← memberOr spec "scale" .nothing).number
  let offset ← (← memberOr spec "offset" (.real 0)).number
  .ok (.unit symbol scale d offset)

/-- The insertion of another name. Both values are judged as names, then the target as a symbol, and
the name itself last. -/
def otherNameOf (name target : Value) : Outcome (Insertion Float) := do
  let key? ← name.naming
  match ← target.key, key? with
  | .void v, _ => .error (.unknownTarget name.shown v.text)
  | .text symbol, some key => .ok (.otherName key symbol)
  | .text _, none => .error .badSort

/-- The insertions of the other names of a unit. -/
def otherNamesOf (symbol : String) (spec : Value) : Table :=
  match (do (← memberOr spec "aliases" (.tuple [])).iterate) with
  | .ok vs => vs.map fun v => otherNameOf v (.text symbol)
  | .error f => [.error f]

/-- The insertions of the units of a document. -/
def ofUnits (units : List (String × Value)) : Table :=
  units.flatMap fun e => unitOf e.1 e.2 :: otherNamesOf e.1 e.2

/-- The insertions of the prefixes of a document. -/
def ofPrefixes (prefixes : List (String × Value)) : Table :=
  prefixes.map fun e => do .ok (.prefixFactor e.1 (← e.2.number))

/-- The entries of a section of a document, none where it is missing. -/
def sectionOf (v : Value) (name : String) : Outcome (List (String × Value)) := do
  entries (← memberOr v name (.mapping []))

/-- The insertions that a document describes: the prefixes, and then every unit with its other
names. -/
def ofDocument (v : Value) : Table :=
  match sectionOf v "prefixes" with
  | .error f => [.error f]
  | .ok prefixes =>
    ofPrefixes prefixes ++
      match sectionOf v "units" with
      | .error f => [.error f]
      | .ok units => ofUnits units

/-! ## Rows -/

/-- The failure of a unit whose symbol is no text. -/
def symbolFailure (symbol : Value) : Failure :=
  match symbol.naming with
  | .error f => f
  | .ok _ => .emptySymbol

/-- The unit of a row: symbol, scale, dimension, and an offset that may be left out. The symbol is
judged last. -/
def ofRow (row : Value) : Outcome (Insertion Float) := do
  match ← row.iterate with
  | symbol :: scale :: d :: rest =>
    let scale ← scale.number
    let d ← d.asDimension
    let offset ← (rest.head?.getD (.real 0)).number
    match symbol with
    | .text s => .ok (.unit s scale d offset)
    | _ =>
      let _ ← UnitEntry.make symbol.shown scale d offset
      .error (symbolFailure symbol)
  | _ => .error .badValue

/-- The other name and the symbol of a pair. -/
def ofPair (pair : Value) : Outcome (Insertion Float) := do
  match ← pair.iterate with
  | [name, target] => otherNameOf name target
  | _ => .error .badValue

/-- The insertions of a sequence of values, each read by `read`. -/
def ofSequence (read : Value → Outcome (Insertion Float)) (v : Value) : Table :=
  match v.iterate with
  | .ok vs => vs.map read
  | .error f => [.error f]

/-- The insertions of rows and of pairs behind them. -/
def ofRows (rows pairs : Value) : Table := ofSequence ofRow rows ++ ofSequence ofPair pairs

end Table

namespace Registry

/-- The form of a unit whose scale and dimension are values. Both are read, the scale first, only
when a quantity is made of the unit. -/
def formOf (scale dimension : Value) : UnitForm :=
  match scale.magnitude, dimension.asDimension with
  | .ok (.scalar _), .ok _ => .number
  | .ok (.array _), .ok _ => .list
  | .ok _, .error f => .unusable f
  | .error f, _ => .unusable f

/-- The unit whose parts are values. The number of exponents is judged first, and then the scale and
the offset; the exponents themselves are not. -/
def unitOfValues (symbol scale dimension offset : Value) : Outcome (UnitEntry Float) := do
  if (← dimension.iterate).length ≠ BaseDimension.all.length then .error .exponentCount
  if !(← scale.isFactor) then .error (.invalidScale symbol.shown)
  if !(← offset.isFinite) then .error (.invalidOffset symbol.shown)
  .ok {
    symbol := symbol.shown
    scale := ← scale.number
    dimension := match dimension.asDimension with | .ok d => d | .error _ => 1
    offset := ← offset.number
    form := formOf scale dimension }

/-- The registry with a unit whose parts are values. The symbol is judged last. -/
def registerValues (reg : Registry Float) (symbol scale dimension offset : Value) :
    Outcome (Registry Float) := do
  let e ← unitOfValues symbol scale dimension offset
  match symbol with
  | .text _ => reg.register e
  | _ => .error (Table.symbolFailure symbol)

/-- The registry with another name for a unit, where both are values. A target that is unknown is
refused before a name that cannot be looked up. -/
def registerNameValue (reg : Registry Float) (name target : Value) : Outcome (Registry Float) := do
  match name.naming, target with
  | .ok none, .text symbol =>
    if (reg.units.lookup (normalize symbol)).isNone then
      .error (.unknownTarget name.shown symbol)
    else .error .badSort
  | _, _ => reg.insert (← Table.otherNameOf name target)

/-- The registry with a prefix whose symbol and factor are values. -/
def registerPrefixValue (reg : Registry Float) (symbol factor : Value) :
    Outcome (Registry Float) := do
  match ← symbol.naming with
  | some (.text s) =>
    if normalize s = "" then .error .emptyPrefix
    if !(← factor.isFactor) then .error (.invalidFactor s)
    reg.registerPrefix s (← factor.number)
  | _ => .error .emptyPrefix

/-- The registry with a unit that is defined by values, and the entry of that unit. A symbol that
counts as nothing is refused as empty, but only when all else is in order. -/
def defineValues (reg : Registry Float) (symbol magnitude unit offset : Value) :
    Outcome (Registry Float × UnitEntry Float) := do
  match ← symbol.key with
  | .text s => reg.define s magnitude.magnitude unit.unitText offset.number
  | .void v =>
    reg.checkFree (.void v)
    let _ ← reg.derivedUnit v.text v.text magnitude.magnitude unit.unitText offset.number
    .error .emptySymbol

/-- A definition through the namespace. -/
def defineMemberValues (reg : Registry Float) (symbol magnitude unit offset : Value) :
    Outcome (Registry Float) := do
  if !symbol.isKey then .error .badSort
  match symbol with
  | .text s => reg.defineMember s magnitude.magnitude unit.unitText offset.number
  | _ => do .ok (← reg.defineValues symbol magnitude unit offset).1

/-- The registry after the insertions of rows and pairs, and the failure that ended them. -/
def populate (reg : Registry Float) (rows pairs : Value) : Registry Float × Outcome Unit :=
  reg.insertAll (Table.ofRows rows pairs)

/-- The registry after the insertions of a document, and the number of units in it. -/
def load (reg : Registry Float) (text : String) : Registry Float × Outcome Nat :=
  match Document.read text with
  | .error f => (reg, .error f)
  | .ok v =>
    let (reg', result) := reg.insertAll (Table.ofDocument v)
    (reg', do
      result
      .ok (← Table.sectionOf v "units").length)

end Registry

end Quantities
