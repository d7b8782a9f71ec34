import Quantities.Text.Blank
import Quantities.Text.Canonical

/-!
# Names of units

A name is a text. A value that counts as nothing can stand in the place of another name, too: it is
stored as it is, and only a value of its own sort finds it again. No unit has such a symbol.

* `normalize` is the form of a text in which it is stored and looked up;
* `Void` are the values that count as nothing, and `Name` is a text or one of them.
-/

namespace Quantities

/-- A symbol as it is stored: without blanks around it, in normal form C. -/
def normalize (s : String) : String :=
  String.ofList (Text.Canonical.composed (Text.strip s.toList))

/-- A value that counts as nothing. -/
inductive Void where
  | nothing | no | zero | realZero | negativeZero | emptyTuple
deriving DecidableEq, Repr

namespace Void

/-- The value as it is written. -/
def text : Void → String
  | nothing => "None"
  | no => "False"
  | zero => "0"
  | realZero => "0.0"
  | negativeZero => "-0.0"
  | emptyTuple => "()"

/-- Is the value a zero, or the truth value that counts as zero? -/
def isZero : Void → Bool
  | no | zero | realZero | negativeZero => true
  | nothing | emptyTuple => false

/-- Are the values the same as names? All zeros are. -/
def isSame (v w : Void) : Bool := v == w || (v.isZero && w.isZero)

end Void

/-- What a unit can be called. -/
inductive Name where
  | text (s : String)
  | void (v : Void)
deriving DecidableEq, Repr

namespace Name

/-- The text of a name, if it is one. -/
def text? : Name → Option String
  | text s => some s
  | void _ => none

/-- The name in a message. -/
def shown : Name → String
  | text s => s
  | void v => v.text

/-- The name as it is stored. -/
def normalized : Name → Name
  | text s => text (normalize s)
  | void v => void v

/-- Do two stored names stand for the same? -/
def isSame : Name → Name → Bool
  | text s, text t => s == t
  | void v, void w => v.isSame w
  | _, _ => false

@[simp] theorem isSame_text (s t : String) : isSame (text s) (text t) = (s == t) := rfl

@[simp] theorem isSame_void_text (v : Void) (s : String) : isSame (void v) (text s) = false := rfl

@[simp] theorem isSame_text_void (s : String) (v : Void) : isSame (text s) (void v) = false := rfl

end Name

end Quantities
