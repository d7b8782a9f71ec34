import Quantities.Quantity.Basic
import Quantities.Unit.Expression
import Quantities.Unit.Registry

/-!
# What a unit string stands for

A unit string stands for a quantity: one of that unit, in coherent units.

* `Registry.resolve` finds the prefix factor and the unit of a term. A symbol without brackets is
  looked up whole; then its first character, and then its first two, are tried as a prefix of the
  rest;
* `Registry.evaluate` multiplies the terms in the order of the text. A unit with an offset stands
  only for itself: alone, without a factor and without a power;
* `Registry.parse` reads and evaluates; a blank string is the number one;
* `Registry.quantity` is a number of such units. It keeps the unit's offset, which a product would
  refuse.
-/

namespace Quantities

variable {α : Type} [Scalar α]

/-- One of the unit. -/
def UnitEntry.quantity (e : UnitEntry α) : Outcome (Quantity α) :=
  match e.form with
  | .number => .ok ⟨.scalar e.scale, e.dimension, e.offset⟩
  | .list => .ok ⟨.array [e.scale], e.dimension, e.offset⟩
  | .unusable cause => .error cause

/-- Does the scale of the unit start elsewhere than at the true zero? -/
def UnitEntry.hasOffset (e : UnitEntry α) : Bool := e.offset != 0

namespace Registry

/-- The unit of a symbol whose first `n` characters are a prefix of the rest, which is not empty. -/
def split? (reg : Registry α) (symbol : String) (n : Nat) : Option (α × UnitEntry α) :=
  let cs := symbol.toList
  if cs.length ≤ n then none
  else
    let factor? := reg.lookupPrefix (String.ofList (cs.take n))
    let unit? := reg.lookupUnit (String.ofList (cs.drop n))
    match factor?, unit? with
    | some factor, some e => some (factor, e)
    | _, _ => none

/-- The factor and the unit of a symbol without brackets. -/
def resolveBare? (reg : Registry α) (symbol : String) : Option (α × UnitEntry α) :=
  match reg.lookupUnit symbol with
  | some e => some (1, e)
  | none => match reg.split? symbol 1 with
    | some r => some r
    | none => reg.split? symbol 2

/-- The factor of a bracketed prefix; empty brackets leave the unit as it is. -/
def bracketFactor? (reg : Registry α) (bracket : String) : Option α :=
  if bracket = "" then some 1 else reg.lookupPrefix bracket

/-- The factor and the unit of a term of the unit string `text`. -/
def resolve (reg : Registry α) (text : String) (t : Term) : Outcome (α × UnitEntry α) :=
  match t.bracket with
  | none =>
    match reg.resolveBare? t.symbol with
    | some r => .ok r
    | none => .error (.unknownUnit t.symbol text)
  | some bracket =>
    match reg.bracketFactor? bracket with
    | none => .error (.unknownBracket bracket text)
    | some factor =>
      match reg.lookupUnit t.symbol with
      | some e => .ok (factor, e)
      | none => .error (.unknownUnit t.symbol text)

/-- The quantity of a resolved term: one of the unit with its factor, raised to the power, and
inverted when it is divided by. -/
def factorQuantity (factor : α) (one : Quantity α) (power : Int) (divided : Bool) :
    Outcome (Quantity α) := do
  let q ← if factor != 1 then one.multiply (.number (.scalar factor)) else .ok one
  let q ← if power = 1 then .ok q else q.power power
  if divided then q.invert else .ok q

/-- The quantity of one term of a product. -/
def termQuantity (reg : Registry α) (text : String) (divided : Bool) (t : Term) :
    Outcome (Quantity α) := do
  let (factor, e) ← reg.resolve text t
  let one ← e.quantity
  if e.hasOffset then .error (.offsetInCompound e.symbol text)
  factorQuantity factor one t.power divided

/-- The product of terms, from the left. -/
def product (reg : Registry α) (text : String) (terms : List (Bool × Term)) :
    Outcome (Quantity α) :=
  terms.foldlM (fun acc t => do acc.multiply (← reg.termQuantity text t.1 t.2)) .unity

/-- The quantity that a plan stands for. -/
def evaluate (reg : Registry α) (text : String) (p : Plan) : Outcome (Quantity α) := do
  match p with
  | ⟨[t], none⟩ =>
    let (factor, e) ← reg.resolve text t
    if e.hasOffset && factor == 1 && t.power == 1 then e.quantity
    else reg.product text p.terms
  | _ => reg.product text p.terms

/-- The quantity that a unit string stands for. -/
def parse (reg : Registry α) (text : String) : Outcome (Quantity α) :=
  if text.toList.all Text.isBlank then .ok .unity
  else do reg.evaluate text (← Plan.read text)

/-- The quantity that a unit string stands for, or the number one where there is none. -/
def parseUnit (reg : Registry α) (text : Option String) : Outcome (Quantity α) :=
  match text with
  | none => .ok .unity
  | some text => reg.parse text

/-- A number of units. The magnitude may be a reading that failed, which matters once the unit is
known. -/
def quantity (reg : Registry α) (magnitude : Outcome (Magnitude α)) (text : Option String) :
    Outcome (Quantity α) := do
  let u ← reg.parseUnit text
  let m ← Magnitude.combine (· * ·) (← magnitude) u.magnitude
  .ok ⟨m, u.dimension, u.offset⟩

/-- One of a unit. -/
def one (reg : Registry α) (text : String) : Outcome (Quantity α) :=
  reg.quantity (.ok (.scalar 1)) text

end Registry

end Quantities
