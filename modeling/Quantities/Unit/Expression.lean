import Quantities.Failure
import Quantities.Number.Numeral

/-!
# Unit strings

A unit string is a product of terms, and behind a slash the terms to divide by: `[k]g m^2 / s^3`.
Terms are separated by blanks. A term is an optional prefix in brackets, a symbol, and an optional
power behind a caret; the prefix and the power may be anything at first sight, and are judged
afterwards.

* `Term` and `Plan` are what a unit string says, before any symbol is looked up;
* `Term.read` and `Plan.read` read them, and fail at the first defect in the order of the text.

Out of scope: the store of plans that were read before. A plan depends on its text alone, so one that
is kept is the one that would be read again.
-/

namespace Quantities

/-- A factor of a unit string. Empty brackets are brackets around no prefix. -/
structure Term where
  bracket : Option String
  symbol : String
  power : Int
deriving DecidableEq, Repr

/-- The terms before the slash, and those behind it when there is one. -/
structure Plan where
  numerator : List Term
  denominator : Option (List Term)
deriving DecidableEq, Repr

namespace Term

/-- Is the character a bracket? -/
def isBracket (c : Char) : Bool := c == '[' || c == ']'

/-- Can the character be part of a symbol inside a term? -/
def isSymbolic (c : Char) : Bool := !isBracket c && c != '^'

/-- A bracketed prefix at the start of a term, if there is one, and the rest. Fails on a bracket
that is not closed before the next one. -/
def splitBracket? : List Char → Option (Option (List Char) × List Char)
  | '[' :: cs =>
    match cs.dropWhile fun c => !isBracket c with
    | ']' :: rest => some (some (cs.takeWhile fun c => !isBracket c), rest)
    | _ => none
  | cs => some (none, cs)

/-- The parts of a term: prefix, symbol, and the text behind the caret. -/
def split? (cs : List Char) : Option (Option (List Char) × List Char × Option (List Char)) :=
  match splitBracket? cs with
  | none => none
  | some (bracket, rest) =>
    let symbol := rest.takeWhile isSymbolic
    if symbol.isEmpty then none
    else match rest.dropWhile isSymbolic with
      | [] => some (bracket, symbol, none)
      | '^' :: power => some (bracket, symbol, some power)
      | _ => none

/-- The longest run of digits that is read as a power. -/
def digitLimit : Nat := Number.digitLimit

/-- The number that a power denotes: a sign and digits, not zero. -/
def readPower (text : String) (cs : List Char) : Outcome Int :=
  match Number.readWhole? cs with
  | none => .error (.invalidPower (String.ofList cs) text)
  | some n =>
    if digitLimit < (Number.signOf cs).2.length then .error .badValue
    else if n = 0 then .error (.zeroPower text)
    else .ok n

/-- The term that a word of the unit string `text` denotes. -/
def read (text : String) (word : List Char) : Outcome Term :=
  match split? word with
  | none => .error (.malformedTerm (String.ofList word) text)
  | some (bracket, symbol, power) => do
    let n ← match power with
      | none => .ok 1
      | some cs => readPower text cs
    .ok ⟨bracket.map String.ofList, String.ofList symbol, n⟩

end Term

namespace Plan

/-- The terms of one section of the unit string `text`. -/
def readSection (text : String) (cs : List Char) : Outcome (List Term) :=
  match Text.words cs with
  | [] => .error (.emptySection text)
  | ws => ws.mapM (Term.read text)

/-- What a unit string says. -/
def read (text : String) : Outcome Plan :=
  if text.toList.any fun c => c == '(' || c == ')' then .error (.parenthesis text)
  else match text.toList.splitOn '/' with
    | [numerator] => do .ok ⟨← readSection text numerator, none⟩
    | [numerator, denominator] => do
      let ns ← readSection text numerator
      let ds ← readSection text denominator
      .ok ⟨ns, some ds⟩
    | _ => .error (.manySlashes text)

/-- The terms in the order of the text; `true` marks those that are divided by. -/
def terms (p : Plan) : List (Bool × Term) :=
  p.numerator.map (fun t => (false, t)) ++ (p.denominator.getD []).map fun t => (true, t)

end Plan

end Quantities
