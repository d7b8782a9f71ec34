import Quantities.Proofs.Outcome
import Quantities.Proofs.Quantity.Single
import Quantities.Unit.Evaluation

/-!
# The terms of a unit string

* `Knows`: a term has a factor and a unit of which a quantity can be made. `Factors`: the unit has
  no offset either, and the power is in range, so that the term can be part of a product.
* `TermFails` lists the four ways in which a term is no such part, with the failure of each, and
  `factors_or_termFails` says that there are no more.
* `Factors.termQuantity` and `TermFails.eq`: what the evaluation of a term answers. A term that can
  be part of a product is single; its number is `termValue` and its dimension `termDimension`.
-/

namespace Quantities

variable {α : Type} [Scalar α]

/-! ## What a term is -/

namespace Term

/-- Can a unit be raised to the power of the term? Only the power one may be out of range. -/
def InRange (t : Term) : Prop := t.power = 1 ∨ t.power.natAbs < Number.integerLimit

instance (t : Term) : Decidable t.InRange := inferInstanceAs (Decidable (_ ∨ _))

end Term

omit [Scalar α] in
theorem UnitEntry.quantity_ok {e : UnitEntry α} {one : Quantity α} (h : e.quantity = .ok one) :
    one.magnitude.members = [e.scale] ∧ one.dimension = e.dimension ∧ one.offset = e.offset := by
  unfold UnitEntry.quantity at h
  split at h
  · obtain rfl := Except.ok.inj h
    exact ⟨rfl, rfl, rfl⟩
  · obtain rfl := Except.ok.inj h
    exact ⟨rfl, rfl, rfl⟩
  · exact nomatch h

namespace Registry

/-- A term has a factor and a unit of which a quantity can be made. -/
structure Knows (reg : Registry α) (t : Term) (factor : α) (e : UnitEntry α) : Prop where
  resolve : ∀ text, reg.resolve text t = .ok (factor, e)
  usable : ∃ one, e.quantity = .ok one

/-- A term can be part of a product: it is known, its unit has no offset, and its power is in
range. -/
def Factors (reg : Registry α) (t : Term) : Prop :=
  ∃ factor e, reg.Knows t factor e ∧ e.hasOffset = false ∧ t.InRange

/-- The ways in which a term of the unit string `text` cannot be part of a product. -/
inductive TermFails (reg : Registry α) (text : String) (t : Term) : Failure → Prop
  | unresolved {f : Failure} (h : reg.resolve text t = .error f) : TermFails reg text t f
  | unusable {factor : α} {e : UnitEntry α} {f : Failure}
      (resolve : reg.resolve text t = .ok (factor, e)) (h : e.quantity = .error f) :
      TermFails reg text t f
  | offset {factor : α} {e : UnitEntry α} (known : reg.Knows t factor e)
      (h : e.hasOffset = true) : TermFails reg text t (.offsetInCompound e.symbol text)
  | outOfRange {factor : α} {e : UnitEntry α} (known : reg.Knows t factor e)
      (free : e.hasOffset = false) (h : ¬ t.InRange) : TermFails reg text t .outOfRange

/-- The dimension of the unit of a term. -/
def unitDimension (reg : Registry α) (t : Term) : Dimension :=
  match reg.resolve "" t with
  | .ok (_, e) => e.dimension
  | .error _ => 1

/-- The dimension that a term brings to a product; `true` marks those that are divided by. -/
def termDimension (reg : Registry α) (t : Bool × Term) : Dimension :=
  let d := reg.unitDimension t.2 ^ t.2.power
  if t.1 then d⁻¹ else d

/-- The number that a unit with a factor and a power brings to a product. -/
def factorValue (factor scale : α) (power : Int) (divided : Bool) : α :=
  let x := Quantity.powerOf (if factor != 1 then scale * factor else scale) power
  if divided then 1 / x else x

/-- The number that a term brings to a product. -/
def termValue (reg : Registry α) (t : Bool × Term) : α :=
  match reg.resolve "" t.2 with
  | .ok (factor, e) => factorValue factor e.scale t.2.power t.1
  | .error _ => 1

variable {reg : Registry α} {text : String} {t : Term} {factor : α} {e : UnitEntry α}

/-- How a term resolves: without brackets by its symbol, with brackets by the factor of the prefix
and the unit of the symbol. -/
theorem resolve_ok {r : α × UnitEntry α} : reg.resolve text t = .ok r ↔
    (t.bracket = none ∧ reg.resolveBare? t.symbol = some r) ∨
      ∃ bracket, t.bracket = some bracket ∧ reg.bracketFactor? bracket = some r.1 ∧
        reg.lookupUnit t.symbol = some r.2 := by
  obtain ⟨factor, e⟩ := r
  unfold resolve
  cases hb : t.bracket with
  | none => cases hr : reg.resolveBare? t.symbol <;> simp
  | some bracket =>
    cases hf : reg.bracketFactor? bracket <;> cases hu : reg.lookupUnit t.symbol <;> simp [hf]

/-- The unit string matters only where a term cannot be resolved. -/
theorem resolve_of_resolve {r : α × UnitEntry α} (h : reg.resolve text t = .ok r)
    (text' : String) : reg.resolve text' t = .ok r := resolve_ok.mpr (resolve_ok.mp h)

theorem knows_of_resolve {one : Quantity α} (h : reg.resolve text t = .ok (factor, e))
    (hone : e.quantity = .ok one) : reg.Knows t factor e := ⟨resolve_of_resolve h, one, hone⟩

/-- A term has no second meaning. -/
theorem Knows.unique {factor' : α} {e' : UnitEntry α} (h : reg.Knows t factor e)
    (h' : reg.Knows t factor' e') : factor' = factor ∧ e' = e := by
  have := (h.resolve "").symm.trans (h'.resolve "")
  simp only [Except.ok.injEq, Prod.mk.injEq] at this
  exact ⟨this.1.symm, this.2.symm⟩

theorem Knows.unitDimension (h : reg.Knows t factor e) : reg.unitDimension t = e.dimension := by
  rw [Registry.unitDimension, h.resolve]

theorem Knows.termValue (h : reg.Knows t factor e) (divided : Bool) :
    reg.termValue (divided, t) = factorValue factor e.scale t.power divided := by
  rw [Registry.termValue, h.resolve]

/-- Every term can be part of a product, or fails. -/
theorem factors_or_termFails (reg : Registry α) (text : String) (t : Term) :
    reg.Factors t ∨ ∃ f, reg.TermFails text t f := by
  rcases Outcome.ok_or_error (reg.resolve text t) with ⟨⟨factor, e⟩, hr⟩ | ⟨f, hr⟩
  · rcases Outcome.ok_or_error e.quantity with ⟨one, hone⟩ | ⟨f, hone⟩
    · have known := knows_of_resolve hr hone
      cases ho : e.hasOffset with
      | true => exact Or.inr ⟨_, .offset known ho⟩
      | false =>
        by_cases hn : t.InRange
        · exact Or.inl ⟨factor, e, known, ho, hn⟩
        · exact Or.inr ⟨_, .outOfRange known ho hn⟩
    · exact Or.inr ⟨f, .unusable hr hone⟩
  · exact Or.inr ⟨f, .unresolved hr⟩

/-! ## The evaluation of a term -/

theorem termQuantity_eq {one : Quantity α} (h : reg.resolve text t = .ok (factor, e))
    (hone : e.quantity = .ok one) (divided : Bool) : reg.termQuantity text divided t =
      if e.hasOffset then .error (.offsetInCompound e.symbol text)
      else factorQuantity factor one t.power divided := by
  unfold termQuantity
  rw [h]
  simp only [bind, Except.bind, hone]

theorem factorQuantity_eq (factor : α) (one : Quantity α) (n : Int) (divided : Bool) :
    factorQuantity factor one n divided =
      (if factor != 1 then one.multiply (.number (.scalar factor)) else .ok one) >>= fun q =>
        (if n = 1 then .ok q else q.power n) >>= fun q => if divided then q.invert else .ok q := by
  unfold factorQuantity
  split_ifs <;> rfl

variable [Scalar.Grounded α] {one : Quantity α} {x : α} {d : Dimension} {n : Int}

theorem scaled_ok (h : one.Single x d) (factor : α) :
    ∃ q, (if factor != 1 then one.multiply (.number (.scalar factor)) else .ok one) = .ok q ∧
      q.Single (if factor != 1 then x * factor else x) d := by
  split
  · have hf : (Quantity.number (.scalar factor)).Single factor 1 :=
      ⟨rfl, rfl, Quantity.hasOffset_of_zero rfl⟩
    obtain ⟨q, hq, hs, -⟩ := h.multiply hf
    exact ⟨q, hq, mul_one d ▸ hs⟩
  · exact ⟨one, rfl, h⟩

theorem factorQuantity_ok (h : one.Single x d) (hn : n = 1 ∨ n.natAbs < Number.integerLimit)
    (factor : α) (divided : Bool) : ∃ q, factorQuantity factor one n divided = .ok q ∧
      q.Single (factorValue factor x n divided) (if divided then (d ^ n)⁻¹ else d ^ n) := by
  obtain ⟨q₁, hq₁, h₁⟩ := scaled_ok h factor
  obtain ⟨q₂, hq₂, h₂⟩ : ∃ q, (if n = 1 then .ok q₁ else q₁.power n) = .ok q ∧
      q.Single (Quantity.powerOf (if factor != 1 then x * factor else x) n) (d ^ n) := by
    split
    · rename_i h1
      subst h1
      exact ⟨q₁, rfl, by rw [zpow_one]; exact h₁⟩
    · exact h₁.power hn
  rw [factorQuantity_eq, hq₁]
  simp only [bind, Except.bind, hq₂, factorValue]
  cases divided with
  | false => exact ⟨q₂, rfl, h₂⟩
  | true => exact h₂.invert

theorem factorQuantity_outOfRange (h : one.Single x d) (h1 : n ≠ 1)
    (hn : Number.integerLimit ≤ n.natAbs) (factor : α) (divided : Bool) :
    factorQuantity factor one n divided = .error .outOfRange := by
  obtain ⟨q, hq, hs⟩ := scaled_ok h factor
  have h0 : n ≠ 0 := by
    rintro rfl
    exact absurd hn (by decide +kernel)
  have hpower : q.power n = .error .outOfRange := by
    simp only [Quantity.power, hs.hasOffset, Bool.false_and, Bool.false_eq_true, if_false]
    rw [if_neg h0, if_neg h1, if_pos hn]
  rw [factorQuantity_eq, hq]
  simp only [bind, Except.bind, if_neg h1, hpower]

omit [Scalar.Grounded α] in
/-- One of a unit without an offset is single. -/
theorem single_of_quantity (hone : e.quantity = .ok one) (ho : e.hasOffset = false) :
    one.Single e.scale e.dimension := by
  obtain ⟨hm, hd, hoff⟩ := UnitEntry.quantity_ok hone
  refine ⟨hm, hd, ?_⟩
  rw [Quantity.hasOffset, hoff]
  exact ho

/-- What the evaluation of a term answers that can be part of a product. -/
theorem Factors.termQuantity (h : reg.Factors t) (text : String) (divided : Bool) :
    ∃ q, reg.termQuantity text divided t = .ok q ∧
      q.Single (reg.termValue (divided, t)) (reg.termDimension (divided, t)) := by
  obtain ⟨factor, e, known, ho, hn⟩ := h
  obtain ⟨one, hone⟩ := known.usable
  rw [termQuantity_eq (known.resolve text) hone, ho, known.termValue, termDimension,
    known.unitDimension]
  exact factorQuantity_ok (single_of_quantity hone ho) hn factor divided

/-- What the evaluation of a term answers that fails. -/
theorem TermFails.eq {f : Failure} (h : reg.TermFails text t f) (divided : Bool) :
    reg.termQuantity text divided t = .error f := by
  cases h with
  | unresolved h =>
    unfold Registry.termQuantity
    rw [h]
    rfl
  | unusable resolve h =>
    unfold Registry.termQuantity
    rw [resolve]
    simp only [bind, Except.bind, h]
  | offset known h =>
    obtain ⟨one, hone⟩ := known.usable
    rw [termQuantity_eq (known.resolve text) hone, h]
    rfl
  | outOfRange known free h =>
    obtain ⟨one, hone⟩ := known.usable
    obtain ⟨h1, hn⟩ := not_or.mp h
    rw [termQuantity_eq (known.resolve text) hone, free]
    exact factorQuantity_outOfRange (single_of_quantity hone free) h1 (not_lt.mp hn) _ _

end Registry

end Quantities
