/-!
# Blanks, and cutting text at them

A blank is a character that separates words: the white space of every script, the four information
separators included. A zero-width space and a byte order mark are not blanks.

* `isBlank` is the class;
* `strip` removes the blanks at both ends;
* `words` are the runs of characters between blanks, none of them empty.
-/

namespace Quantities.Text

/-- Does the character separate words? -/
def isBlank (c : Char) : Bool :=
  let n := c.toNat
  (0x09 ≤ n && n ≤ 0x0D) || (0x1C ≤ n && n ≤ 0x20) || n == 0x85 || n == 0xA0 || n == 0x1680 ||
    (0x2000 ≤ n && n ≤ 0x200A) || n == 0x2028 || n == 0x2029 || n == 0x202F || n == 0x205F ||
    n == 0x3000

/-- The text without the characters of a class at its two ends. -/
def trim (p : Char → Bool) (cs : List Char) : List Char :=
  ((cs.dropWhile p).reverse.dropWhile p).reverse

/-- The text without the blanks at its two ends. -/
def strip (cs : List Char) : List Char := trim isBlank cs

/-- The words of a text, in order. -/
def words (cs : List Char) : List (List Char) :=
  (cs.splitOnP isBlank).filter fun w => !w.isEmpty

end Quantities.Text
