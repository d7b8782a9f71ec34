import Quantities.Grid.Basic
import Quantities.Number.Columns

/-!
# Written grids

A grid is written in nested brackets, one line for each row where that fits. All numbers have one
width, so that they stand in columns.

* A row that is too long goes on in the next line, below its first number;
* the rows of a grid with more extents are separated by one line end more for each extent;
* of a grid with more than a thousand numbers only the first three and the last three along each
  extent are shown;
* a grid without numbers tells the sort of its numbers, and its extents if there are several.

`Grid.written` names the grid as one, `Grid.shown` has the brackets alone.
-/

namespace Quantities

/-- The numbers as texts of one width. -/
def Cells.columnTexts : Cells → List (List Char)
  | .reals xs => Number.columnTexts xs
  | .integers ns =>
    let words := ns.map fun n => (Number.intText n).toList
    words.map (Number.flushRight (Number.Widths.largest (words.map List.length)))
  | .truths bs => bs.map fun b => (if b then " True" else "False").toList

namespace Grid

/-! ## Lines -/

/-- How the members of a grid are separated, and what stands around all of them. -/
structure Layout where
  opening : String
  comma : String
  closing : String

/-- The layout of a grid that is named as one. -/
def Layout.named : Layout := ⟨"array(", ",", ")"⟩

/-- The layout of brackets alone. -/
def Layout.bare : Layout := ⟨"", "", ""⟩

/-- The most characters on a line. -/
def lineWidth : Nat := 75

/-- Lines, of which the last one can still grow. -/
structure Lines where
  done : List Char
  last : List Char

/-- Blanks up to a column. -/
def blanks (n : Nat) : List Char := List.replicate n ' '

/-- The lines with one word more, on a new line if the last one has words and no room. -/
def Lines.put (indent width : Nat) (ls : Lines) (word : List Char) : Lines :=
  if indent < ls.last.length ∧ width < ls.last.length + word.length then
    ⟨ls.done ++ (ls.last.reverse.dropWhile (· == ' ')).reverse ++ ['\n'], blanks indent ++ word⟩
  else { ls with last := ls.last ++ word }

/-- Words in brackets, the first one in column `indent` of a line that is filled before. -/
def rowText (l : Layout) (indent width : Nat) : List (List Char) → List Char
  | [] => ['[', ']']
  | w :: ws =>
    let room := width - 1
    let first := Lines.put indent room ⟨[], blanks indent⟩ w
    let all := ws.foldl (fun ls w =>
      Lines.put indent room { ls with last := ls.last ++ l.comma.toList ++ [' '] } w) first
    '[' :: ((all.done ++ all.last).drop indent ++ [']'])

/-! ## Long grids -/

/-- Grids with more numbers are shortened. -/
def sizeLimit : Nat := 1000

/-- How many members are left at each end. -/
def edge : Nat := 3

/-- The members at the two ends along each extent. -/
def edges {β : Type} : List Nat → List β → List β
  | [], xs => xs
  | n :: ns, xs =>
    let kept := if 2 * edge < n then
        List.range edge ++ (List.range edge).map fun i => n - edge + i
      else List.range n
    kept.flatMap fun i => edges ns ((xs.drop (i * volume ns)).take (volume ns))

/-- An extent as it is shown. -/
structure Axis where
  length : Nat
  isShortened : Bool

/-- An extent of a grid. -/
def Axis.ofExtent (isLong : Bool) (n : Nat) : Axis :=
  if isLong && 2 * edge < n then ⟨2 * edge, true⟩ else ⟨n, false⟩

/-- The members along an extent, with a gap where some are left out. -/
def Axis.fill (a : Axis) (members : List (List Char)) : List (List Char) :=
  if a.isShortened then members.take edge ++ ['.', '.', '.'] :: members.drop edge else members

/-! ## The whole text -/

/-- Words in nested brackets. Inside a bracket the indent grows and the lines become shorter. -/
def nestedText (l : Layout) : List Axis → Nat → Nat → List (List Char) → List Char
  | [], _, _, ws => ws.flatten
  | [a], indent, width, ws => rowText l indent width (a.fill ws)
  | a :: as, indent, width, ws =>
    let size := volume (as.map (·.length))
    let members := (List.range a.length).map fun i =>
      nestedText l as (indent + 1) (width - 1) ((ws.drop (i * size)).take size)
    let between := l.comma.toList ++ List.replicate as.length '\n' ++ blanks indent
    '[' :: (between.intercalate (a.fill members) ++ [']'])

/-- The numbers of a grid in brackets. -/
def bracketText (l : Layout) (g : Grid) : List Char :=
  if g.size = 0 then ['[', ']']
  else
    let isLong := decide (sizeLimit < g.size)
    let cells := if isLong then g.cells.select (edges g.extents) else g.cells
    nestedText l (g.extents.map (Axis.ofExtent isLong)) (l.opening.length + 1)
      (lineWidth - l.closing.length) cells.columnTexts

/-- What the brackets do not tell about a grid. -/
def remarks (g : Grid) : List String :=
  (if (g.size = 0 ∧ g.extents ≠ [0]) ∨ sizeLimit < g.size then ["shape=" ++ extentsText g.extents]
    else []) ++
    if g.size = 0 then ["dtype=" ++ g.cells.sort] else []

/-- The grid named as one, with its remarks behind the brackets, on a line of their own where they
do not fit. -/
def written (g : Grid) : String :=
  let l := Layout.named
  let brackets := match g.extents, g.cells.toList with
    | [], [.truth b] => (Cell.truth b).text.toList
    | _, _ => g.bracketText l
  let text := l.opening.toList ++ brackets
  match g.remarks with
  | [] => String.ofList text ++ l.closing
  | rs =>
    let text := text ++ l.comma.toList
    let remark := ", ".intercalate rs ++ l.closing
    let last := (text.reverse.takeWhile (· != '\n')).length
    let space := if lineWidth < last + remark.length + 1 then '\n' :: blanks l.opening.length
      else [' ']
    String.ofList (text ++ space) ++ remark

/-- The grid in brackets; a single number without extents stands alone. -/
def shown (g : Grid) : String :=
  match g.extents, g.cells.toList with
  | [], [c] => c.text
  | _, _ => String.ofList (g.bracketText .bare)

end Grid

end Quantities
