import Quantities.Text.Canonical.CombiningClass
import Quantities.Text.Canonical.Composite
import Quantities.Text.Canonical.Replaced

/-!
# Canonical composition

Two texts that look alike can differ in their code points: an accented letter is one character, or a
letter followed by a mark. Normal form C is the composed one of the two. It is reached in three
steps:

* `decompose` replaces every character by its parts, as far as they go;
* `order` sorts the marks behind each base character by their combining class, and leaves marks of
  one class in place;
* `compose` joins a base character with the marks behind it that nothing blocks.

`composed` is the whole of it on text. Text whose characters all lie below U+0300 is left as it is,
since it holds no mark and every character in it is its own composition.
-/

namespace Quantities.Text.Canonical

/-! ## Syllable blocks

The 11172 Hangul syllables are laid out by lead, vowel and trail, so their parts are computed. -/

def syllableBase : Nat := 0xAC00
def leadBase : Nat := 0x1100
def vowelBase : Nat := 0x1161
def trailBase : Nat := 0x11A7
def leadCount : Nat := 19
def vowelCount : Nat := 21
def trailCount : Nat := 28

/-- Is the code point a Hangul syllable? -/
def isSyllable (n : Nat) : Bool :=
  syllableBase ≤ n && n < syllableBase + leadCount * vowelCount * trailCount

/-- The parts of a syllable: lead and vowel, and the trail if there is one. -/
def syllableParts (n : Nat) : List Nat :=
  let i := n - syllableBase
  let lead := leadBase + i / (vowelCount * trailCount)
  let vowel := vowelBase + i % (vowelCount * trailCount) / trailCount
  let trail := i % trailCount
  if trail = 0 then [lead, vowel] else [lead, vowel, trailBase + trail]

/-- The syllable made of a lead and a vowel, or of a syllable without trail and a trail. -/
def joinSyllable? (a b : Nat) : Option Nat :=
  if leadBase ≤ a && a < leadBase + leadCount && vowelBase ≤ b && b < vowelBase + vowelCount then
    some (syllableBase + ((a - leadBase) * vowelCount + (b - vowelBase)) * trailCount)
  else if isSyllable a && (a - syllableBase) % trailCount == 0 && trailBase < b &&
      b < trailBase + trailCount then
    some (a + (b - trailBase))
  else none

/-! ## Decomposition -/

/-- The first decomposition of a character, when it has one. -/
def parts? (n : Nat) : Option (List Nat) :=
  if isSyllable n then some (syllableParts n)
  else match composites.lookup n with
    | some (a, b) => some [a, b]
    | none => match splitPairs.lookup n with
      | some (a, b) => some [a, b]
      | none => replacedRuns.findSome? fun r =>
          if r.1 ≤ n then (r.2[n - r.1]?).map fun t => [t] else none

/-- The parts of a character after at most `depth` decompositions, one below the other. -/
def expand : Nat → Nat → List Nat
  | 0, n => [n]
  | depth + 1, n =>
    match parts? n with
    | some ps => ps.flatMap (expand depth)
    | none => [n]

/-- All characters replaced by their parts; no character decomposes more than four levels deep. -/
def decompose (ns : List Nat) : List Nat := ns.flatMap (expand 4)

/-! ## Order of marks -/

/-- A character before text whose marks are in order, moved behind the marks of lower class. -/
def insertMark (n : Nat) : List Nat → List Nat
  | [] => [n]
  | m :: ms =>
    if combiningClass m ≠ 0 ∧ combiningClass m < combiningClass n then m :: insertMark n ms
    else n :: m :: ms

/-- The marks behind every base character sorted by class. -/
def order (ns : List Nat) : List Nat := ns.foldr insertMark []

/-! ## Composition -/

/-- The character that two others make up. -/
def join? (a b : Nat) : Option Nat :=
  match joinSyllable? a b with
  | some s => some s
  | none => (composites.find? fun c => c.2.1 == a && c.2.2 == b).map (·.1)

/-- Does no mark of those read behind the base, last one first, stand between it and `n`? -/
def isNext (marks : List Nat) (n : Nat) : Bool :=
  match marks with
  | [] => true
  | m :: _ => combiningClass m < combiningClass n

/-- Composition behind a base character, of whose marks `marks` could not be joined to it. -/
def composeFrom (base : Nat) (marks : List Nat) : List Nat → List Nat
  | [] => base :: marks.reverse
  | n :: ns =>
    match if isNext marks n then join? base n else none with
    | some joined => composeFrom joined marks ns
    | none =>
      if combiningClass n = 0 then base :: marks.reverse ++ composeFrom n [] ns
      else composeFrom base (n :: marks) ns

/-- Composition of decomposed text. Marks before the first base character stay as they are. -/
def compose : List Nat → List Nat
  | [] => []
  | n :: ns => if combiningClass n = 0 then composeFrom n [] ns else n :: compose ns

/-! ## Normal form C -/

/-- The text in normal form C. -/
def composed (cs : List Char) : List Char :=
  if cs.all fun c => c.toNat < 0x300 then cs
  else (compose (order (decompose (cs.map Char.toNat)))).map Char.ofNat

end Quantities.Text.Canonical
