import Quantities.Number.Numeral
import Quantities.Text.Half
import Quantities.Value.Reading

/-!
# Documents

A document is the text of one value in JSON: objects are tables of named values in the order of the
text, and of a repeated name the last value counts, at the place of the first. The words `NaN`,
`Infinity` and `-Infinity` are numbers too. A number is an integer unless it has a fraction or an
exponent.

The reader works on the list of characters and gives back the rest of it. Its recursion is bounded
by a number that every step lowers; the length of the text is enough.

Out of scope: how the text comes out of a file, and a limit on the depth of nesting.
-/

namespace Quantities.Document

open Number (Numeral digitsValue)

/-- The text that is still to be read. -/
abbrev Rest := List Char

/-- The white space of documents. -/
def isSpace (c : Char) : Bool := c == ' ' || c == '\t' || c == '\n' || c == '\r'

/-- The rest behind white space. -/
def skip (cs : Rest) : Rest := cs.dropWhile isSpace

/-! ## Words and numbers -/

/-- The rest behind a word, when the text starts with it. -/
def behind? (word : String) (cs : Rest) : Option Rest :=
  if word.toList.isPrefixOf cs then some (cs.drop word.length) else none

/-- A basic decimal digit. -/
def isDigit (c : Char) : Bool := '0' ≤ c && c ≤ '9'

/-- The fraction of a number; a point without a digit behind it is not part of the number. -/
def fractionOf (cs : Rest) : Option (List Char) × Rest :=
  match cs with
  | '.' :: d :: more =>
    if isDigit d then (some (d :: more.takeWhile isDigit), more.dropWhile isDigit) else (none, cs)
  | _ => (none, cs)

/-- The exponent of a number; without a digit it is not part of the number. -/
def exponentOf (cs : Rest) : Option Int × Rest :=
  match cs with
  | e :: more =>
    if e = 'e' ∨ e = 'E' then
      let (minus, ds) := Number.signOf more
      let digits := ds.takeWhile isDigit
      if digits.isEmpty then (none, cs)
      else
        let n := digitsValue digits
        (some (if minus then -(n : Int) else n), ds.dropWhile isDigit)
    else (none, cs)
  | [] => (none, cs)

/-- A number, of which the sign has been read. -/
def number (negative : Bool) (cs : Rest) : Outcome (Value × Rest) :=
  let whole := match cs with
    | '0' :: _ => ['0']
    | _ => cs.takeWhile isDigit
  if whole.isEmpty then .error .malformedDocument
  else
    let (fraction, rest) := fractionOf (cs.drop whole.length)
    let (exponent, rest) := exponentOf rest
    match fraction, exponent with
    | none, none =>
      if Number.digitLimit < whole.length then .error .badValue
      else .ok (.integer (if negative then -(digitsValue whole : Int) else digitsValue whole), rest)
    | _, _ =>
      let fraction := fraction.getD []
      let numeral : Numeral :=
        ⟨negative, digitsValue (whole ++ fraction), exponent.getD 0 - fraction.length⟩
      .ok (.real numeral.toFloat, rest)

/-! ## Strings -/

/-- The value of a hexadecimal digit. -/
def hexValue? (c : Char) : Option Nat :=
  if isDigit c then some (c.toNat - 48)
  else if 'a' ≤ c ∧ c ≤ 'f' then some (c.toNat - 87)
  else if 'A' ≤ c ∧ c ≤ 'F' then some (c.toNat - 55)
  else none

/-- The number of four hexadecimal digits, and the rest. -/
def hexUnit? : Rest → Option (Nat × Rest)
  | a :: b :: c :: d :: cs =>
    match [a, b, c, d].mapM hexValue? with
    | some ds => some (ds.foldl (fun n d => 16 * n + d) 0, cs)
    | none => none
  | _ => none

/-- The character behind `\\u`. Two escapes that are the halves of one character are read together;
a half alone is carried. -/
def escapedUnit? (cs : Rest) : Option (Char × Rest) :=
  match hexUnit? cs with
  | none => none
  | some (high, rest) =>
    if 0xD800 ≤ high ∧ high < 0xDC00 then
      match (behind? "\\u" rest).bind hexUnit? with
      | some (low, rest') =>
        if 0xDC00 ≤ low ∧ low < 0xE000 then
          some (Char.ofNat (0x10000 + (high - 0xD800) * 0x400 + (low - 0xDC00)), rest')
        else some (Text.carrier high, rest)
      | none => some (Text.carrier high, rest)
    else if Text.isHalf high then some (Text.carrier high, rest)
    else some (Char.ofNat high, rest)

/-- The character behind a backslash, and the rest. -/
def escaped? : Rest → Option (Char × Rest)
  | '"' :: cs => some ('"', cs)
  | '\\' :: cs => some ('\\', cs)
  | '/' :: cs => some ('/', cs)
  | 'b' :: cs => some ('\x08', cs)
  | 'f' :: cs => some ('\x0c', cs)
  | 'n' :: cs => some ('\n', cs)
  | 'r' :: cs => some ('\r', cs)
  | 't' :: cs => some ('\t', cs)
  | 'u' :: cs => escapedUnit? cs
  | _ => none

/-- The characters up to the closing quote, last one first, after those read before. Control
characters must be escaped. -/
def string? : Nat → List Char → Rest → Option (List Char × Rest)
  | 0, _, _ => none
  | _ + 1, _, [] => none
  | fuel + 1, acc, c :: cs =>
    if c = '"' then some (acc, cs)
    else if c = '\\' then (escaped? cs).bind fun r => string? fuel (r.1 :: acc) r.2
    else if c.toNat < 0x20 then none
    else string? fuel (c :: acc) cs

/-- A string, of which the opening quote has been read. -/
def string (cs : Rest) : Outcome (String × Rest) :=
  match string? (cs.length + 1) [] cs with
  | some (acc, rest) => .ok (String.ofList acc.reverse, rest)
  | none => .error .malformedDocument

/-! ## Values -/

mutual

/-- A value that starts here. -/
def value : Nat → Rest → Outcome (Value × Rest)
  | 0, _ => .error .malformedDocument
  | fuel + 1, cs =>
    match cs with
    | '"' :: rest => do
      let (s, rest) ← string rest
      .ok (.text s, rest)
    | '[' :: rest =>
      match skip rest with
      | ']' :: rest => .ok (.list [], rest)
      | rest => members fuel [] rest
    | '\x7b' :: rest =>
      match skip rest with
      | '\x7d' :: rest => .ok (.mapping [], rest)
      | rest => entries fuel [] rest
    | _ => word cs

/-- The members of a list from here to the closing bracket, after those read before, last
one first. -/
def members : Nat → List Value → Rest → Outcome (Value × Rest)
  | 0, _, _ => .error .malformedDocument
  | fuel + 1, acc, cs => do
    let (v, rest) ← value fuel cs
    match skip rest with
    | ']' :: rest => .ok (.list (v :: acc).reverse, rest)
    | ',' :: rest => members fuel (v :: acc) (skip rest)
    | _ => .error .malformedDocument

/-- The entries of a table from here to the closing brace, after those read before, last one
first. -/
def entries : Nat → List (String × Value) → Rest → Outcome (Value × Rest)
  | 0, _, _ => .error .malformedDocument
  | fuel + 1, acc, cs =>
    match cs with
    | '"' :: rest => do
      let (name, rest) ← string rest
      match skip rest with
      | ':' :: rest =>
        let (v, rest) ← value fuel (skip rest)
        match skip rest with
        | '\x7d' :: rest => .ok (.mapping (Value.entriesOf ((name, v) :: acc).reverse), rest)
        | ',' :: rest => entries fuel ((name, v) :: acc) (skip rest)
        | _ => .error .malformedDocument
      | _ => .error .malformedDocument
    | _ => .error .malformedDocument

/-- A word or a number. -/
def word (cs : Rest) : Outcome (Value × Rest) :=
  match behind? "null" cs, behind? "true" cs, behind? "false" cs with
  | some rest, _, _ => .ok (.nothing, rest)
  | _, some rest, _ => .ok (.truth true, rest)
  | _, _, some rest => .ok (.truth false, rest)
  | _, _, _ =>
    match behind? "NaN" cs, behind? "Infinity" cs, behind? "-Infinity" cs with
    | some rest, _, _ => .ok (.real (0.0 / 0.0), rest)
    | _, some rest, _ => .ok (.real (1.0 / 0.0), rest)
    | _, _, some rest => .ok (.real (-1.0 / 0.0), rest)
    | _, _, _ =>
      match cs with
      | '-' :: rest => number true rest
      | _ => number false cs

end

/-- The value that a document holds, with nothing but white space around it. -/
def read (text : String) : Outcome Value := do
  let cs := text.toList
  let (v, rest) ← value (cs.length + 1) (skip cs)
  if (skip rest).isEmpty then .ok v else .error .malformedDocument

end Quantities.Document
