import Quantities.Text.Half
import Quantities.Text.Printable

/-!
# Quoted text

Text inside a message stands between single quotes, or between double quotes when it holds a single
quote and no double one. The quote in use and the backslash are escaped by a backslash, the tab and
the line ends by a letter, and any other character that does not show by its code point in
hexadecimal: two digits, four or eight. A lone half of a character is written with four.
-/

namespace Quantities.Text

/-- The lower-case hexadecimal digits of a number, filled with zeros to a width. -/
def hexadecimal (width n : Nat) : List Char :=
  let ds := Nat.toDigits 16 n
  List.replicate (width - ds.length) '0' ++ ds

/-- A character as it is written between two quotes `quote`. -/
def escape (quote c : Char) : List Char :=
  if c = quote || c = '\\' then ['\\', c]
  else if c = '\t' then ['\\', 't']
  else if c = '\n' then ['\\', 'n']
  else if c = '\r' then ['\\', 'r']
  else if isPrintable c then [c]
  else if c.toNat < 0x100 then '\\' :: 'x' :: hexadecimal 2 c.toNat
  else if c.toNat < 0x10000 then '\\' :: 'u' :: hexadecimal 4 c.toNat
  else match half? c with
    | some unit => '\\' :: 'u' :: hexadecimal 4 unit
    | none => '\\' :: 'U' :: hexadecimal 8 c.toNat

/-- The quote that a text is written in. -/
def quoteFor (cs : List Char) : Char :=
  if cs.contains '\'' && !cs.contains '"' then '"' else '\''

/-- The text between quotes. -/
def quoted (s : String) : String :=
  let q := quoteFor s.toList
  String.ofList (q :: s.toList.flatMap (escape q) ++ [q])

end Quantities.Text
