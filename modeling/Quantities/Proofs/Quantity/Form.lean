import Quantities.Dimension.Derived
import Quantities.Proofs.Magnitude
import Quantities.Proofs.Outcome
import Quantities.Quantity.Basic

/-!
# What does not depend on the numbers

Which operations are refused, and of which dimension, offset and length their results are, is settled
by the dimensions, offsets and lengths of the operands. The numbers themselves have no say in it,
infinite and undefined ones included, with one exception: roots of numbers below zero are refused.

* `Magnitude.SameForm` and `Quantity.Alike`: two magnitudes, and two quantities, that differ in
  their numbers at most.
* `Outcome.Agree`: two answers that differ in no more than that, as far as neither is the refusal of
  a root. `Agree.bind` carries it through a chain of steps.
* `Alike.add` and the lemmas behind it: each operation answers alike on operands that are alike.
* `Computation` is a tree of operations, and `Computation.run` its value where the operands have
  values.
* **`Computation.run_alike`**: so two runs of a computation on operands that are alike fail alike or
  have results that are alike.
-/

namespace Quantities

/-! ## Answers that agree -/

namespace Outcome

variable {β γ : Type}

/-- Both answers are results that are related, or the same failure, unless one of them is the
refusal of a root. -/
inductive Agree (R : β → β → Prop) : Outcome β → Outcome β → Prop
  | ok {p q : β} (h : R p q) : Agree R (.ok p) (.ok q)
  | error (f : Failure) : Agree R (.error f) (.error f)
  | first (x : Outcome β) : Agree R (.error .negativeRoot) x
  | second (x : Outcome β) : Agree R x (.error .negativeRoot)

/-- Steps that agree on related results agree behind answers that agree. -/
theorem Agree.bind {R : β → β → Prop} {S : γ → γ → Prop} {x y : Outcome β}
    {f g : β → Outcome γ} (h : Agree R x y) (hfg : ∀ p q, R p q → Agree S (f p) (g q)) :
    Agree S (x >>= f) (y >>= g) := by
  cases h with
  | ok h => exact hfg _ _ h
  | error e => exact .error e
  | first => exact .first _
  | second => exact .second _

/-- A step that does not depend on the run. -/
theorem Agree.same (x : Outcome β) : Agree Eq x x := by
  cases x with
  | ok p => exact .ok rfl
  | error e => exact .error e

/-- Where no root is refused, both answers are failures, which are the same, or both are results. -/
theorem Agree.cases {R : β → β → Prop} {x y : Outcome β} (h : Agree R x y)
    (hx : ∀ f, x = .error f → f.kind ≠ .negativeRoot)
    (hy : ∀ f, y = .error f → f.kind ≠ .negativeRoot) :
    (∃ f, x = .error f ∧ y = .error f) ∨ ∃ p q, x = .ok p ∧ y = .ok q ∧ R p q := by
  cases h with
  | ok h => exact Or.inr ⟨_, _, rfl, rfl, h⟩
  | error f => exact Or.inl ⟨f, rfl, rfl⟩
  | first => exact absurd rfl (hx _ rfl)
  | second => exact absurd rfl (hy _ rfl)

end Outcome

open Outcome (Agree)

/-! ## Magnitudes of one form -/

namespace Magnitude

variable {α β γ : Type}

/-- Both magnitudes are single numbers, or both are lists of one length. -/
structure SameForm (a b : Magnitude α) : Prop where
  isArray : a.isArray = b.isArray
  length : a.length = b.length

variable {a a' : Magnitude α}

theorem SameForm.map (f g : α → β) (h : a.SameForm a') : (a.map f).SameForm (a'.map g) :=
  ⟨by rw [isArray_map, isArray_map, h.isArray], by rw [length_map, length_map, h.length]⟩

theorem SameForm.combine {b b' : Magnitude β} (f : α → β → γ) (ha : a.SameForm a')
    (hb : b.SameForm b') : Agree SameForm (combine f a b) (combine f a' b') := by
  by_cases hfits : a.Fits b
  · have hfits' : a'.Fits b' := by
      rw [Fits, ← ha.length, ← hb.length]
      exact hfits
    obtain ⟨m, hm, hc⟩ := combine_of_fits f hfits
    obtain ⟨m', hm', hc'⟩ := combine_of_fits f hfits'
    rw [hm, hm']
    refine .ok ⟨?_, ?_⟩
    · rw [hc.isArray, hc'.isArray, ha.isArray, hb.isArray]
    · rw [hc.length, hc'.length, commonLength, commonLength, ha.length, hb.length]
  · have hfits' : ¬ a'.Fits b' := by
      rw [Fits, ← ha.length, ← hb.length]
      exact hfits
    rw [combine_of_not_fits f hfits, combine_of_not_fits f hfits', ha.length, hb.length]
    exact .error _

theorem SameForm.root [Rooted α] (n : Nat) (h : a.SameForm a') :
    (a.root n).SameForm (a'.root n) := by
  have hroot : ∀ b : Magnitude α, (b.root n).isArray = b.isArray ∧ (b.root n).length = b.length := by
    intro b
    cases b with
    | scalar x => exact ⟨rfl, rfl⟩
    | array xs => exact ⟨rfl, List.length_map _⟩
  exact ⟨by rw [(hroot a).1, (hroot a').1, h.isArray], by rw [(hroot a).2, (hroot a').2, h.length]⟩

end Magnitude

/-! ## Operations -/

namespace Quantity

section

variable {α : Type} [Scalar α]

/-- The quantities differ in their numbers at most. -/
structure Alike (p q : Quantity α) : Prop where
  magnitude : p.magnitude.SameForm q.magnitude
  dimension : p.dimension = q.dimension
  offset : p.offset = q.offset

variable {a a' b b' : Quantity α}

theorem Alike.hasOffset (h : a.Alike a') : a.hasOffset = a'.hasOffset := by
  rw [Quantity.hasOffset, Quantity.hasOffset, h.offset]

omit [Scalar α] in
theorem Alike.requireLike (action : Action) (ha : a.Alike a') (hb : b.Alike b') :
    requireLike action a b = requireLike action a' b' := by
  rw [Quantity.requireLike, Quantity.requireLike, ha.dimension, hb.dimension]

theorem Alike.add (ha : a.Alike a') (hb : b.Alike b') : Agree Alike (a.add b) (a'.add b') := by
  unfold Quantity.add
  rw [ha.requireLike .add hb, hb.hasOffset]
  refine (Agree.same _).bind fun _ _ _ => ?_
  split
  · exact .error _
  · exact (ha.magnitude.combine _ hb.magnitude).bind fun _ _ h => .ok ⟨h, ha.dimension, ha.offset⟩

theorem Alike.subtract (ha : a.Alike a') (hb : b.Alike b') :
    Agree Alike (a.subtract b) (a'.subtract b') := by
  unfold Quantity.subtract
  rw [ha.requireLike .subtract hb, hb.hasOffset]
  refine (Agree.same _).bind fun _ _ _ => ?_
  refine ((ha.magnitude.map _ _).combine _ (hb.magnitude.map _ _)).bind fun _ _ h => ?_
  split
  · exact .ok ⟨h, ha.dimension, rfl⟩
  · exact .ok ⟨h.map _ _, ha.dimension, ha.offset⟩

theorem Alike.multiply (ha : a.Alike a') (hb : b.Alike b') :
    Agree Alike (a.multiply b) (a'.multiply b') := by
  unfold Quantity.multiply
  rw [ha.hasOffset, hb.hasOffset]
  split
  · exact .error _
  · refine (ha.magnitude.combine _ hb.magnitude).bind fun _ _ h => .ok ⟨h, ?_, rfl⟩
    rw [Quantity.plain, Quantity.plain, ha.dimension, hb.dimension]

theorem Alike.invert (ha : a.Alike a') : Agree Alike a.invert a'.invert := by
  unfold Quantity.invert
  rw [ha.hasOffset]
  split
  · exact .error _
  · refine .ok ⟨ha.magnitude.map _ _, ?_, rfl⟩
    rw [Quantity.plain, Quantity.plain, ha.dimension]

theorem Alike.divide (ha : a.Alike a') (hb : b.Alike b') :
    Agree Alike (a.divide b) (a'.divide b') := by
  unfold Quantity.divide
  rw [ha.hasOffset, hb.hasOffset]
  split
  · exact .error _
  · exact hb.invert.bind fun _ _ h => ha.multiply h

theorem Alike.power (ha : a.Alike a') (n : Int) : Agree Alike (a.power n) (a'.power n) := by
  unfold Quantity.power
  rw [ha.hasOffset]
  split
  · exact .error _
  split
  · exact .error _
  split
  · exact .ok ⟨ha.magnitude.map _ _, rfl, rfl⟩
  split
  · exact .ok ha
  split
  · exact .error _
  · refine .ok ⟨ha.magnitude.map _ _, ?_, rfl⟩
    rw [Quantity.plain, Quantity.plain, ha.dimension]

end

variable {α : Type} [Rooted α] {a a' : Quantity α}

/-- The one operation in which the numbers have a say, and only by being below zero. -/
theorem Alike.root (ha : a.Alike a') (n : Int) : Agree Alike (a.root n) (a'.root n) := by
  unfold Quantity.root
  rw [ha.hasOffset, ha.dimension]
  split
  · exact .error _
  split
  · exact .error _
  by_cases hneg : a.magnitude.anyNegative
  · rw [if_pos hneg]
    exact .first _
  by_cases hneg' : a'.magnitude.anyNegative
  · rw [if_pos hneg']
    exact .second _
  rw [if_neg hneg, if_neg hneg']
  split
  · exact .error _
  split
  · exact .ok ⟨ha.magnitude, rfl, ha.offset⟩
  split
  · exact .error _
  · exact .ok ⟨ha.magnitude.root _, rfl, rfl⟩

end Quantity

/-! ## Computations -/

/-- A tree of operations on operands that are named by `ι`. Exponents and degrees may be readings
that failed, which matters once the operand is known. -/
inductive Computation (ι : Type) where
  | operand (i : ι)
  | add (s t : Computation ι)
  | subtract (s t : Computation ι)
  | multiply (s t : Computation ι)
  | divide (s t : Computation ι)
  | invert (t : Computation ι)
  | power (t : Computation ι) (n : Outcome Int)
  | root (t : Computation ι) (n : Outcome Int)

namespace Computation

variable {ι α : Type} [Rooted α]

/-- What the computation answers. Of two operands the first one is computed first. -/
def run (value : ι → Quantity α) : Computation ι → Outcome (Quantity α)
  | operand i => .ok (value i)
  | add s t => do (← s.run value).add (← t.run value)
  | subtract s t => do (← s.run value).subtract (← t.run value)
  | multiply s t => do (← s.run value).multiply (← t.run value)
  | divide s t => do (← s.run value).divide (← t.run value)
  | invert t => do (← t.run value).invert
  | power t n => do (← t.run value).power (← n)
  | root t n => do (← t.run value).root (← n)

variable {value value' : ι → Quantity α}

/-- Runs agree as far as no root is refused. -/
theorem agree_run (h : ∀ i, (value i).Alike (value' i)) (t : Computation ι) :
    Agree Quantity.Alike (t.run value) (t.run value') := by
  induction t with
  | operand i => exact .ok (h i)
  | add s t hs ht => exact hs.bind fun _ _ ha => ht.bind fun _ _ hb => ha.add hb
  | subtract s t hs ht => exact hs.bind fun _ _ ha => ht.bind fun _ _ hb => ha.subtract hb
  | multiply s t hs ht => exact hs.bind fun _ _ ha => ht.bind fun _ _ hb => ha.multiply hb
  | divide s t hs ht => exact hs.bind fun _ _ ha => ht.bind fun _ _ hb => ha.divide hb
  | invert t ht => exact ht.bind fun _ _ ha => ha.invert
  | power t n ht =>
    exact ht.bind fun _ _ ha => (Agree.same n).bind fun n _ hn => hn ▸ ha.power n
  | root t n ht =>
    exact ht.bind fun _ _ ha => (Agree.same n).bind fun n _ hn => hn ▸ ha.root n

/-- **Numbers do not matter.** Of two runs of a computation on operands that are alike, in neither
of which the root of a number below zero is refused, either both fail, with the same failure, or
both have results, which are alike. -/
theorem run_alike (t : Computation ι) (h : ∀ i, (value i).Alike (value' i))
    (hrun : ∀ f, t.run value = .error f → f.kind ≠ .negativeRoot)
    (hrun' : ∀ f, t.run value' = .error f → f.kind ≠ .negativeRoot) :
    (∃ f, t.run value = .error f ∧ t.run value' = .error f) ∨
      ∃ p q, t.run value = .ok p ∧ t.run value' = .ok q ∧ p.Alike q :=
  (agree_run h t).cases hrun hrun'

/-- Diagonals of rectangles, with sides that are numbers, and with sides that are none. -/
theorem run_alike_diagonal :
    let side (b : Bool) : Computation Bool := power (operand b) (.ok 2)
    let diagonal : Computation Bool := root (add (side false) (side true)) (.ok 2)
    let length (m : Magnitude Float) : Quantity Float := .plain m (.base .length)
    let value (b : Bool) := length (if b then .array [3, 5] else .scalar 4)
    let value' (b : Bool) := length (if b then .array [0 / 0, 0] else .scalar (1 / 0))
    (∀ b, (value b).Alike (value' b)) ∧
      (∀ f, diagonal.run value = .error f → f.kind ≠ .negativeRoot) ∧
      (∀ f, diagonal.run value' = .error f → f.kind ≠ .negativeRoot) ∧
      ((∃ f, diagonal.run value = .error f ∧ diagonal.run value' = .error f) ∨
        ∃ p q, diagonal.run value = .ok p ∧ diagonal.run value' = .ok q ∧ p.Alike q) := by
  intro side diagonal length value value'
  have halike : ∀ b, (value b).Alike (value' b) := by
    intro b
    cases b <;> exact ⟨⟨rfl, rfl⟩, rfl, rfl⟩
  have hrun : ∃ q, diagonal.run value = .ok q ∧ q.dimension = .base .length := by decide +kernel
  have hrun' : ∃ q, diagonal.run value' = .ok q ∧ q.dimension = .base .length := by
    decide +kernel
  obtain ⟨q, hq, -⟩ := hrun
  obtain ⟨q', hq', -⟩ := hrun'
  have hno : ∀ f, diagonal.run value = .error f → f.kind ≠ .negativeRoot := fun f hf =>
    nomatch hq.symm.trans hf
  have hno' : ∀ f, diagonal.run value' = .error f → f.kind ≠ .negativeRoot := fun f hf =>
    nomatch hq'.symm.trans hf
  exact ⟨halike, hno, hno', run_alike diagonal halike hno hno'⟩

end Computation

end Quantities
