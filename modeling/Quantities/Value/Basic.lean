import Quantities.Grid.Basic
import Quantities.Quantity.Basic
import Quantities.Unit.Expression
import Quantities.Unit.Registry

/-!
# Values

A value is an operand before anything is known about it: a number, a truth value, a text, a
sequence, an array or a number taken out of one, a table of named values, a quantity, a dimension,
a unit or a term of a unit string, or nothing. Operands that are typed in by a user, the contents of
unit tables and the results of earlier operations are values; `Quantities.Value.Reading` says which
of them serve as numbers, magnitudes and exponents.
-/

namespace Quantities

/-- An operand of any sort. -/
inductive Value where
  | nothing
  | truth (b : Bool)
  | integer (n : Int)
  | real (x : Float)
  | text (s : String)
  | list (vs : List Value)
  | tuple (vs : List Value)
  | array (g : Grid)
  | cell (c : Cell)
  | mapping (entries : List (String × Value))
  | quantity (q : Quantity Float)
  | dimension (d : Dimension)
  | entry (e : UnitEntry Float)
  | term (t : Term)
deriving Inhabited

namespace Value

/-- The word for the sort of a value in messages. -/
def sort : Value → String
  | nothing => "NoneType"
  | truth _ => "bool"
  | integer _ => "int"
  | real _ => "float"
  | text _ => "str"
  | list _ => "list"
  | tuple _ => "tuple"
  | array _ => "ndarray"
  | cell (.real _) => "float64"
  | cell (.integer _) => "int64"
  | cell (.truth _) => "bool"
  | mapping _ => "dict"
  | quantity _ => "Quantity"
  | dimension _ => "Dimension"
  | entry _ => "UnitEntry"
  | term _ => "Term"

/-! ## Results as values -/

/-- The value with the members of a magnitude. -/
def ofMagnitude : Magnitude Float → Value
  | .scalar x => real x
  | .array xs => array (.ofReals xs)

/-- An answer, or an array of answers. -/
def ofVerdicts : Magnitude Bool → Value
  | .scalar b => truth b
  | .array bs => array ⟨[bs.length], .truths bs⟩

/-- An order as a number: negative, zero or positive. -/
def orderSign : Ordering → Int
  | .lt => -1
  | .eq => 0
  | .gt => 1

/-- An order, or an array of orders. -/
def ofOrders : Magnitude Ordering → Value
  | .scalar o => integer (orderSign o)
  | .array os => array ⟨[os.length], .integers (os.map orderSign)⟩

/-- What was found as a value, or nothing. -/
def orNothing {β : Type} (f : β → Value) (x : Option β) : Value := (x.map f).getD nothing

/-- The sections of a plan. -/
def ofPlan (p : Plan) : Value :=
  tuple ((p.numerator :: p.denominator.toList).map fun ts => tuple (ts.map term))

/-- Powers with their names. -/
def ofPowers (ps : List (String × Int)) : Value :=
  list (ps.map fun p => list [text p.1, integer p.2])

/-- The parts of a term. -/
def ofTerm (t : Term) : List Value := [orNothing text t.bracket, text t.symbol, integer t.power]

/-! ## Tables of named values -/

/-- Entries with one entry more. A name that is there already keeps its place and takes the new
value. -/
def putEntry {β : Type} (name : String) (v : β) : List (String × β) → List (String × β)
  | [] => [(name, v)]
  | (n, w) :: es => if n = name then (n, v) :: es else (n, w) :: putEntry name v es

/-- Entries in order, where the last value of a repeated name counts. -/
def entriesOf {β : Type} (es : List (String × β)) : List (String × β) :=
  es.foldl (fun acc e => putEntry e.1 e.2 acc) []

end Value

end Quantities
