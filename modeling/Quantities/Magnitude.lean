import Quantities.Failure
import Quantities.Number.Scalar

/-!
# Magnitudes

A magnitude is one number or a list of numbers. Two magnitudes combine member by member when they
have equal lengths, and a magnitude of length one, which a single number counts as, combines with
every member of the other one. The result is a single number only when both operands are.

* `Magnitude.combine` applies an operation under these rules, and fails on any other two lengths;
* `Magnitude.map` applies a function to every member.
-/

namespace Quantities

/-- One number, or a list of numbers. -/
inductive Magnitude (α : Type) where
  | scalar (x : α)
  | array (xs : List α)
deriving DecidableEq, Repr

namespace Magnitude

variable {α β γ : Type}

/-- Is the magnitude a list? -/
def isArray : Magnitude α → Bool
  | scalar _ => false
  | array _ => true

/-- The numbers of a magnitude, in order. -/
def members : Magnitude α → List α
  | scalar x => [x]
  | array xs => xs

/-- How many numbers a magnitude has. -/
def length (a : Magnitude α) : Nat := a.members.length

/-- A function applied to every member. -/
def map (f : α → β) : Magnitude α → Magnitude β
  | scalar x => scalar (f x)
  | array xs => array (xs.map f)

@[simp] theorem members_map (f : α → β) (a : Magnitude α) :
    (a.map f).members = a.members.map f := by
  cases a <;> rfl

@[simp] theorem length_map (f : α → β) (a : Magnitude α) : (a.map f).length = a.length := by
  simp [length]

@[simp] theorem isArray_map (f : α → β) (a : Magnitude α) : (a.map f).isArray = a.isArray := by
  cases a <;> rfl

@[simp] theorem length_scalar (x : α) : (scalar x).length = 1 := rfl

/-- The members in a list of length `n`, where a lone member is repeated. -/
def stretch (n : Nat) (a : Magnitude α) : List α :=
  match a.members with
  | [x] => List.replicate n x
  | xs => xs

/-- A magnitude that has length `n` or one fills a list of length `n`. -/
theorem length_stretch {n : Nat} {a : Magnitude α} (h : a.length = n ∨ a.length = 1) :
    (a.stretch n).length = n := by
  unfold stretch length at *
  rcases hm : a.members with _ | ⟨x, _ | ⟨y, xs⟩⟩ <;> simp_all

/-- The length of a combination: that of the operand whose length is not one. -/
def commonLength (a : Magnitude α) (b : Magnitude β) : Nat :=
  if a.length = 1 then b.length else a.length

/-- Refuses two lengths that differ when neither is one. -/
def checkLengths (m n : Nat) : Outcome Unit :=
  if m = n ∨ m = 1 ∨ n = 1 then .ok () else .error (.lengthMismatch m n)

/-- An operation applied to the members that belong together. -/
def combine (f : α → β → γ) (a : Magnitude α) (b : Magnitude β) : Outcome (Magnitude γ) :=
  match a, b with
  | scalar x, scalar y => .ok (scalar (f x y))
  | a, b => do
    checkLengths a.length b.length
    let n := commonLength a b
    .ok (array (List.zipWith f (a.stretch n) (b.stretch n)))

/-- The root of every member. The square roots of a list keep a negative zero. -/
def root [Rooted α] (n : Nat) : Magnitude α → Magnitude α
  | scalar x => scalar (Rooted.root x n)
  | array xs => array (xs.map fun x => if n = 2 then Rooted.sqrt x else Rooted.root x n)

section

variable [Scalar α]

/-- The magnitude of the same form whose members are all one. -/
def ones (a : Magnitude α) : Magnitude α := a.map fun _ => 1

/-- Is some member below zero? -/
def anyNegative (a : Magnitude α) : Bool := a.members.any fun x => Scalar.lt x 0

/-- Is some member other than zero? -/
def anyNonzero (a : Magnitude α) : Bool := a.members.any fun x => x != 0

/-- The power of every member. -/
def pow (a : Magnitude α) (n : Int) : Magnitude α := a.map fun x => Scalar.pow x n

end

/-- A magnitude for a reader: a list in brackets. -/
def text : Magnitude Float → String
  | scalar x => Number.briefText x
  | array xs => "[" ++ ",".intercalate (xs.map Number.briefText) ++ "]"

end Magnitude

end Quantities
