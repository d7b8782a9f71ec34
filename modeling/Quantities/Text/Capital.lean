/-!
# Reading a name in basic capitals

A name made of the letters A to Z can be spelled in small letters too. Beside the twenty-six of them
some characters count because their capital form is made of basic letters alone: the sharp s, the
long s, the dotless i and the joined letters. Every other character stands for itself.
-/

namespace Quantities.Text

/-- The capital form of a character, as far as it consists of basic letters. -/
def capital (c : Char) : List Char :=
  match c with
  | 'ß' => ['S', 'S']
  | 'ı' => ['I']
  | 'ſ' => ['S']
  | 'ﬀ' => ['F', 'F']
  | 'ﬁ' => ['F', 'I']
  | 'ﬂ' => ['F', 'L']
  | 'ﬃ' => ['F', 'F', 'I']
  | 'ﬄ' => ['F', 'F', 'L']
  | 'ﬅ' => ['S', 'T']
  | 'ﬆ' => ['S', 'T']
  | c => [c.toUpper]

/-- The capital form of a name. -/
def capitals (s : String) : List Char := s.toList.flatMap capital

end Quantities.Text
