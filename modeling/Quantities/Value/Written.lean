import Quantities.Grid.Text
import Quantities.Quantity.Text
import Quantities.Value.Basic

/-!
# Written values

A value inside a message is written so that its sort can be told: texts are quoted, lists and tuples
have their brackets, a tuple of one value ends in a comma, and what comes out of an array is marked.

* `Value.written` is this form;
* `Value.shown` is a value where it stands for a name: a text itself, and arrays and their members
  without marks;
* `Value.wholes` are the whole numbers that both of them write and that may have too many digits to
  be written. Those of arrays never have.
-/

namespace Quantities

namespace Cell

/-- The number with a mark of its sort. -/
def written : Cell → String
  | real x => "np.float64(" ++ (real x).text ++ ")"
  | integer n => "np.int64(" ++ (integer n).text ++ ")"
  | truth b => "np." ++ (truth b).text ++ "_"

end Cell

/-- A unit with its parts. -/
def UnitEntry.written (e : UnitEntry Float) : String :=
  "UnitEntry(symbol=" ++ Text.quoted e.symbol ++ ", scale=" ++ Number.exactText e.scale ++
    ", dims=" ++ e.dimension.text ++ ", offset=" ++ Number.exactText e.offset ++ ")"

/-- A term with its parts. -/
def Term.written (t : Term) : String :=
  "Term(prefix=" ++ (t.bracket.map Text.quoted).getD "None" ++ ", symbol=" ++
    Text.quoted t.symbol ++ ", power=" ++ Number.intText t.power ++ ")"

namespace Value

open Text (quoted)

mutual

/-- The value as it is written in messages. -/
def written : Value → String
  | nothing => "None"
  | truth true => "True"
  | truth false => "False"
  | integer n => Number.intText n
  | real x => Number.exactText x
  | text s => quoted s
  | list vs => "[" ++ ", ".intercalate (writtenAll vs) ++ "]"
  | tuple vs =>
    match writtenAll vs with
    | [t] => "(" ++ t ++ ",)"
    | ts => "(" ++ ", ".intercalate ts ++ ")"
  | array g => g.written
  | cell c => c.written
  | mapping es => "\x7b" ++ ", ".intercalate (writtenEntries es) ++ "\x7d"
  | quantity q => q.text
  | dimension d => d.text
  | entry e => e.written
  | term t => t.written

/-- The members of a sequence. -/
def writtenAll : List Value → List String
  | [] => []
  | v :: vs => written v :: writtenAll vs

/-- The entries of a table. -/
def writtenEntries : List (String × Value) → List String
  | [] => []
  | (name, v) :: es => (quoted name ++ ": " ++ written v) :: writtenEntries es

end

/-- The value where it stands for a name. -/
def shown : Value → String
  | text s => s
  | array g => g.shown
  | cell c => c.text
  | v => v.written

mutual

/-- The whole numbers of any size in a value. -/
def wholes : Value → List Int
  | integer n => [n]
  | list vs | tuple vs => wholesOfAll vs
  | mapping es => wholesOfEntries es
  | quantity q => q.dimension.toList
  | dimension d => d.toList
  | entry e => e.dimension.toList
  | term t => [t.power]
  | nothing | truth _ | real _ | text _ | array _ | cell _ => []

/-- Those of the members of a sequence. -/
def wholesOfAll : List Value → List Int
  | [] => []
  | v :: vs => wholes v ++ wholesOfAll vs

/-- Those of the entries of a table. -/
def wholesOfEntries : List (String × Value) → List Int
  | [] => []
  | (_, v) :: es => wholes v ++ wholesOfEntries es

end

end Value

end Quantities
