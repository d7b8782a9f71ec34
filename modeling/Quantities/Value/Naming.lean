import Quantities.Unit.Namespace
import Quantities.Value.Reading

/-!
# Values as names

What a value is worth in the place of a symbol or of another name for a unit. A text is a name, and
so is a value that counts as nothing, unless it can still grow: an empty list, an empty table or an
array of a zero are taken for nothing, but cannot be looked up.

* `Value.naming` reads a name, `Value.key` a name that can be looked up;
* `Value.isKey` says which values can be looked up at all;
* `Registry.lookupValue`, `Registry.getValue` and `Registry.prefixOf` look up;
* `Registry.unitList`, `Registry.nameList` and `Registry.prefixList` list the three tables in the
  order of their keys;
* `Registry.memberValue` is a member of the namespace.
-/

namespace Quantities

namespace Value

/-- The name that the value stands for. `none` is a value that is taken for nothing and cannot be
looked up. -/
def naming : Value → Outcome (Option Name)
  | text s => .ok (some (.text s))
  | nothing => .ok (some (.void .nothing))
  | truth false => .ok (some (.void .no))
  | integer 0 => .ok (some (.void .zero))
  | tuple [] => .ok (some (.void .emptyTuple))
  | real x => zeroName x
  | cell (.real x) => zeroName x
  | cell (.integer 0) => .ok (some (.void .zero))
  | cell (.truth false) => .ok (some (.void .no))
  | list [] | mapping [] => .ok none
  | array g =>
    match g.only? with
    | some c => if c.isZero then .ok none else .error .missingMember
    | none => .error .badValue
  | _ => .error .missingMember
where
  /-- A zero as a name. -/
  zeroName (x : Float) : Outcome (Option Name) :=
    if x != 0.0 then .error .missingMember
    else .ok (some (.void (if (Number.Binary.ofFloat x).negative then .negativeZero
      else .realZero)))

/-- The name that the value stands for, to be looked up. -/
def key (v : Value) : Outcome Name := do
  match ← v.naming with
  | some n => .ok n
  | none => .error .badSort

mutual

/-- Can the value be looked up? Whatever can grow or be compared member by member cannot. -/
def isKey : Value → Bool
  | list _ | mapping _ | array _ | quantity _ => false
  | tuple vs => areKeys vs
  | _ => true

/-- Can all of the values be looked up? -/
def areKeys : List Value → Bool
  | [] => true
  | v :: vs => isKey v && areKeys vs

end

/-- The value of a void name. -/
def ofVoid : Void → Value
  | .nothing => nothing
  | .no => truth false
  | .zero => integer 0
  | .realZero => real 0.0
  | .negativeZero => real (-0.0)
  | .emptyTuple => tuple []

/-- The value of a name. -/
def ofName : Name → Value
  | .text s => text s
  | .void v => ofVoid v

/-- The value in the form in which a symbol is stored. A value that counts as nothing is left as it
is. -/
def normalized (v : Value) : Outcome Value := do
  match ← v.naming with
  | some (.text s) => .ok (text (normalize s))
  | _ => .ok v

end Value

namespace Registry

/-! ## Look-up -/

/-- The unit that a value stands for. -/
def lookupValue (reg : Registry Float) (v : Value) : Outcome (Option (UnitEntry Float)) := do
  .ok (reg.lookupName (← v.key))

/-- Does the value stand for a unit? -/
def hasValue (reg : Registry Float) (v : Value) : Outcome Bool := do
  .ok (← reg.lookupValue v).isSome

/-- The unit that a value stands for; fails when there is none. -/
def getValue (reg : Registry Float) (v : Value) : Outcome (UnitEntry Float) := do
  match ← reg.lookupValue v with
  | some e => .ok e
  | none => .error (.unknownSymbol v.shown)

/-- The factor of a prefix that is any value. -/
def prefixOf (reg : Registry Float) (v : Value) : Outcome (Option Float) := do
  match ← v.key with
  | .text s => .ok (reg.lookupPrefix s)
  | .void _ => .ok none

/-- The member of the namespace whose name is a value. -/
def memberValue (reg : Registry Float) : Value → Outcome (Quantity Float)
  | .text s => reg.member s
  | _ => .error .badSort

/-! ## Lists -/

/-- Pairs with texts as keys, in ascending order. -/
def sortedPairs {β : Type} (f : β → Value) (ps : List (String × β)) : Value :=
  .list ((ps.mergeSort fun a b => a.1 ≤ b.1).map fun p => .list [.text p.1, f p.2])

/-- The units with their symbols. -/
def unitList (reg : Registry Float) : Value := sortedPairs .entry reg.units

/-- The prefixes with their factors. -/
def prefixList (reg : Registry Float) : Value := sortedPairs .real reg.prefixes

/-- The other names with the symbols that they stand for. Several names have an order only if all
of them are texts. -/
def nameList (reg : Registry Float) : Outcome Value :=
  match reg.aliases with
  | [(n, symbol)] => .ok (.list [.list [.ofName n, .text symbol]])
  | es => do
    let pairs ← es.mapM fun e =>
      match e.1 with
      | .text s => .ok (s, e.2)
      | .void _ => .error .badSort
    .ok (sortedPairs .text pairs)

end Registry

end Quantities
