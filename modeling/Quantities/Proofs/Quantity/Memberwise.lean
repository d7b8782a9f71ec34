import Quantities.Proofs.Dimension.Writable
import Quantities.Proofs.Magnitude
import Quantities.Proofs.Unit.Evaluation
import Quantities.Unit.Conversion
import Quantities.Unit.Standard

/-!
# Lists of magnitudes

An operation on quantities with lists for magnitudes is the same operation on single numbers, done
once for each place of the list. A magnitude of one number, in a list or not, takes part in every
place.

* `Arithmetic` are the operations of two quantities, and `Arithmetic.Admits` what they ask of the
  dimensions and offsets of their operands: `Arithmetic.apply_of_not_admits` says that they refuse
  all others, whatever the lengths are.
* `Arithmetic.apply_of_admits`: operands that are admitted and fit are combined member by member,
  by the function `Arithmetic.number`.
* **`Arithmetic.apply_memberwise`**: so a result consists of the results for single numbers, and
  lengths that do not fit are refused; a conversion into a unit is of the same sort, but has nothing
  to refuse.
-/

namespace Quantities

variable {α : Type} [Scalar α]

/-- The operations that combine two quantities to a third one. -/
inductive Arithmetic where
  | add | subtract | multiply | divide
deriving DecidableEq, Repr

namespace Quantity

/-- The quantity with one number in place of its magnitude. -/
def withNumber (q : Quantity α) (x : α) : Quantity α := { q with magnitude := .scalar x }

end Quantity

namespace Arithmetic

/-- What the operation answers. -/
def apply : Arithmetic → Quantity α → Quantity α → Outcome (Quantity α)
  | add => Quantity.add
  | subtract => Quantity.subtract
  | multiply => Quantity.multiply
  | divide => Quantity.divide

/-- What the operation asks of the dimensions and the offsets of its operands. -/
def Admits (a b : Quantity α) : Arithmetic → Prop
  | add => a.dimension = b.dimension ∧ b.hasOffset = false
  | subtract => a.dimension = b.dimension
  | multiply | divide => a.hasOffset = false ∧ b.hasOffset = false

/-- The operation on one number of each operand. -/
def number (a b : Quantity α) : Arithmetic → α → α → α
  | add => fun x y => x + y
  | subtract => fun x y =>
    if b.hasOffset then x + a.offset - (y + b.offset)
    else x + a.offset - (y + b.offset) - a.offset
  | multiply => fun x y => x * y
  | divide => fun x y => x * (1 / y)

/-- The dimension of the result. -/
def dimension (a b : Quantity α) : Arithmetic → Dimension
  | add | subtract => a.dimension
  | multiply => a.dimension * b.dimension
  | divide => a.dimension * b.dimension⁻¹

/-- The offset of the result. -/
def offset (a b : Quantity α) : Arithmetic → α
  | add => a.offset
  | subtract => if b.hasOffset then 0 else a.offset
  | multiply | divide => 0

variable {op : Arithmetic} {a b : Quantity α}

omit [Scalar α] in
theorem requireLike_ok {action : Action} (h : a.dimension = b.dimension) :
    Quantity.requireLike action a b = .ok () := if_pos h

omit [Scalar α] in
theorem requireLike_error {action : Action} (h : a.dimension ≠ b.dimension) :
    Quantity.requireLike action a b =
      .error (.showing (a.dimension.toList ++ b.dimension.toList)
        (.unlikeDimensions action a.dimension b.dimension)) := if_neg h

/-- Operands that are not admitted are refused before their lengths are looked at. -/
theorem apply_of_not_admits (h : ¬ op.Admits a b) :
    ∃ f, op.apply a b = .error f ∧ f.kind ≠ .lengthMismatch := by
  cases op with
  | add =>
    by_cases hd : a.dimension = b.dimension
    · have ho : b.hasOffset = true := by simpa [Admits, hd] using h
      refine ⟨.offsetAdded, ?_, by simp [Failure.kind]⟩
      simp only [apply, Quantity.add, requireLike_ok hd, ho]
      rfl
    · simp only [apply, Quantity.add, requireLike_error hd]
      exact ⟨_, rfl, Failure.kind_showing_ne (by simp [Failure.kind]) (by decide) _⟩
  | subtract =>
    have hd : a.dimension ≠ b.dimension := h
    simp only [apply, Quantity.subtract, requireLike_error hd]
    exact ⟨_, rfl, Failure.kind_showing_ne (by simp [Failure.kind]) (by decide) _⟩
  | multiply =>
    have ho : (a.hasOffset || b.hasOffset) = true := by
      by_contra hc
      exact h (by simpa [Admits] using hc)
    refine ⟨.offsetMultiplied, ?_, by simp [Failure.kind]⟩
    simp only [apply, Quantity.multiply, ho]
    rfl
  | divide =>
    have ho : (a.hasOffset || b.hasOffset) = true := by
      by_contra hc
      exact h (by simpa [Admits] using hc)
    refine ⟨.offsetDivided, ?_, by simp [Failure.kind]⟩
    simp only [apply, Quantity.divide, ho]
    rfl

theorem multiply_eq (ha : a.hasOffset = false) (hb : b.hasOffset = false) : a.multiply b =
    (Magnitude.combine (fun x y => x * y) a.magnitude b.magnitude).map fun m =>
      ⟨m, a.dimension * b.dimension, 0⟩ := by
  simp only [Quantity.multiply, ha, hb]
  rfl

variable [Scalar.Grounded α]

theorem divide_eq (ha : a.hasOffset = false) (hb : b.hasOffset = false) : a.divide b =
    (Magnitude.combine (fun x y => x * (1 / y)) a.magnitude b.magnitude).map fun m =>
      ⟨m, a.dimension * b.dimension⁻¹, 0⟩ := by
  have hinvert : b.invert =
      .ok (Quantity.plain (b.magnitude.map fun y => 1 / y) b.dimension⁻¹) := by
    rw [Quantity.invert, hb]
    rfl
  have hdivide : a.divide b =
      a.multiply (Quantity.plain (b.magnitude.map fun y => 1 / y) b.dimension⁻¹) := by
    simp only [Quantity.divide, hinvert, ha, hb]
    rfl
  rw [hdivide, multiply_eq ha (Quantity.hasOffset_of_zero rfl)]
  simp only [Quantity.plain, Magnitude.combine_map_right]

/-- Operands that are admitted are combined member by member, as far as their lengths fit. -/
theorem apply_of_admits (h : op.Admits a b) : op.apply a b =
    (Magnitude.combine (op.number a b) a.magnitude b.magnitude).map fun m =>
      ⟨m, op.dimension a b, op.offset a b⟩ := by
  cases op with
  | add =>
    obtain ⟨hd, ho⟩ := h
    simp only [apply, Quantity.add, requireLike_ok hd, ho]
    rfl
  | subtract =>
    have hd : a.dimension = b.dimension := h
    simp only [apply, Quantity.subtract, requireLike_ok hd, Quantity.effective,
      Magnitude.combine_map]
    cases ho : b.hasOffset with
    | true =>
      simp only [number, offset, dimension, ho, if_true]
      rfl
    | false =>
      simp only [number, offset, dimension, ho, Bool.false_eq_true, if_false]
      rw [← Magnitude.map_combine (fun z => z - a.offset) fun x y => x + a.offset - (y + b.offset)]
      cases Magnitude.combine (fun x y => x + a.offset - (y + b.offset)) a.magnitude
        b.magnitude <;> rfl
  | multiply => exact multiply_eq h.1 h.2
  | divide => exact divide_eq h.1 h.2

/-! ## One number of each operand -/

omit [Scalar.Grounded α] in
theorem admits_withNumber {x y : α} : op.Admits (a.withNumber x) (b.withNumber y) ↔
    op.Admits a b := by
  cases op <;> rfl

/-- The operation on one number of each operand. -/
theorem apply_withNumber (h : op.Admits a b) (x y : α) :
    op.apply (a.withNumber x) (b.withNumber y) =
      .ok ⟨.scalar (op.number a b x y), op.dimension a b, op.offset a b⟩ := by
  rw [apply_of_admits (admits_withNumber.mpr h)]
  cases op <;> rfl

/-- A result consists of the results for single numbers. -/
structure Memberwise (op : Arithmetic) (a b r : Quantity α) : Prop where
  /-- It is a single number exactly when both operands are. -/
  isArray : r.magnitude.isArray = false ↔
    a.magnitude.isArray = false ∧ b.magnitude.isArray = false
  /-- It is as long as the operand whose length is not one. -/
  length : r.magnitude.length =
    if a.magnitude.length = 1 then b.magnitude.length else a.magnitude.length
  /-- Each of its members is what the operation answers for the members that belong there. -/
  member : ∀ i < r.magnitude.length, ∃ x y z, a.magnitude.at? i = some x ∧
    b.magnitude.at? i = some y ∧ r.magnitude.members[i]? = some z ∧
      op.apply (a.withNumber x) (b.withNumber y) = .ok (r.withNumber z)

/-- Operands that are admitted and fit are combined member by member. -/
theorem exists_memberwise (h : op.Admits a b) (hfits : a.magnitude.Fits b.magnitude) :
    ∃ r, op.apply a b = .ok r ∧ op.Memberwise a b r := by
  obtain ⟨m, hm, hc⟩ := Magnitude.combine_of_fits (op.number a b) hfits
  refine ⟨⟨m, op.dimension a b, op.offset a b⟩, ?_, ?_, hc.length, fun i hi => ?_⟩
  · rw [apply_of_admits h, hm]
    rfl
  · simp only [hc.isArray, Bool.or_eq_false_iff]
  · obtain ⟨x, y, hx, hy, hz⟩ := hc.member i hi
    exact ⟨x, y, _, hx, hy, hz, apply_withNumber h x y⟩

end Arithmetic

/-! ## Conversion -/

namespace Quantity

variable {q u : Quantity α} {reg : Registry α} {text : String}

theorem valueIn_of_parse (hu : reg.parse text = .ok u) (hd : q.dimension = u.dimension) :
    q.valueIn reg text = q.inUnit u := by
  rw [valueIn, hu]
  exact if_pos hd

/-- A conversion combines the members of a quantity with those of the unit. -/
theorem inUnit_eq (q u : Quantity α) : q.inUnit u =
    Magnitude.combine (fun x y => (x + q.offset - u.offset) / y) q.magnitude u.magnitude := by
  rw [inUnit, effective, Magnitude.map_map, Magnitude.combine_map_left]

/-- A converted magnitude consists of converted single numbers. -/
structure ConvertedMemberwise (q u : Quantity α) (reg : Registry α) (text : String)
    (m : Magnitude α) : Prop where
  /-- It is a single number exactly when the quantity is, and the unit. -/
  isArray : m.isArray = false ↔ q.magnitude.isArray = false ∧ u.magnitude.isArray = false
  /-- It is as long as the quantity. -/
  length : m.length = q.magnitude.length
  /-- Each of its members is the value of the member of the quantity in the same place. -/
  member : ∀ i < m.length, ∃ x z, q.magnitude.at? i = some x ∧ m.members[i]? = some z ∧
    ∃ n, (q.withNumber x).valueIn reg text = .ok n ∧ n.members = [z]

/-- A quantity of the dimension of a unit is converted member by member. -/
theorem exists_convertedMemberwise [Scalar.Grounded α] (hu : reg.parse text = .ok u)
    (hd : q.dimension = u.dimension) :
    ∃ m, q.valueIn reg text = .ok m ∧ q.ConvertedMemberwise u reg text m := by
  obtain ⟨s, hs⟩ := Registry.parse_members hu
  have hone : u.magnitude.length = 1 := congrArg List.length hs
  obtain ⟨m, hm, hc⟩ := Magnitude.combine_of_fits (fun x y => (x + q.offset - u.offset) / y)
    (Or.inr (Or.inr hone) : q.magnitude.Fits u.magnitude)
  refine ⟨m, (valueIn_of_parse hu hd).trans ((inUnit_eq q u).trans hm), ?_, ?_, fun i hi => ?_⟩
  · rw [hc.isArray, Bool.or_eq_false_iff]
  · rw [hc.length, Magnitude.commonLength, hone]
    split_ifs with h
    · exact h.symm
    · rfl
  · obtain ⟨x, y, hx, hy, hz⟩ := hc.member i hi
    obtain ⟨n, hn, hmem⟩ := Magnitude.combine_single
      (f := fun x y => (x + q.offset - u.offset) / y) (a := .scalar x) (b := u.magnitude) rfl hs
    have hys : y = s := by
      unfold Magnitude.at? at hy
      simpa [hone, hs, eq_comm] using hy
    refine ⟨x, _, hx, hz, n, ?_, hys ▸ hmem⟩
    exact (valueIn_of_parse (q := q.withNumber x) hu hd).trans ((inUnit_eq _ u).trans hn)

end Quantity

/-! ## Every operation -/

/-- **Lists are combined member by member.** An operation refuses operands for their lengths exactly
when these differ and neither is one, after their dimensions and offsets were judged; otherwise the
result consists of the results for single numbers. A conversion has one number of a unit for its
second operand, so that no length is refused. -/
theorem Arithmetic.apply_memberwise (op : Arithmetic) (a b : Quantity Float) :
    (¬ op.Admits a b → ∃ f, op.apply a b = .error f ∧ f.kind ≠ .lengthMismatch) ∧
    (op.Admits a b →
      ((∃ f, op.apply a b = .error f ∧ f.kind = .lengthMismatch) ↔
        ¬ a.magnitude.Fits b.magnitude) ∧
      (a.magnitude.Fits b.magnitude → ∃ r, op.apply a b = .ok r ∧ op.Memberwise a b r)) ∧
    ∀ (reg : Registry Float) (text : String) (u : Quantity Float), reg.parse text = .ok u →
      a.dimension = u.dimension →
        ∃ m, a.valueIn reg text = .ok m ∧ a.ConvertedMemberwise u reg text m := by
  refine ⟨apply_of_not_admits, fun h => ⟨⟨?_, fun hfits => ?_⟩, exists_memberwise h⟩,
    fun reg text u => Quantity.exists_convertedMemberwise⟩
  · rintro ⟨f, hf, -⟩ hfits
    obtain ⟨r, hr, -⟩ := exists_memberwise h hfits
    exact nomatch hf.symm.trans hr
  · refine ⟨.lengthMismatch a.magnitude.length b.magnitude.length, ?_, rfl⟩
    rw [apply_of_admits h, Magnitude.combine_of_not_fits _ hfits]
    rfl

/-- Readings in degrees Celsius less readings in kelvin: all of them less one, and two of them less
three. Readings in degrees Celsius have no product. -/
theorem Arithmetic.apply_memberwise_celsius :
    let celsius (m : Magnitude Float) : Quantity Float := ⟨m, .base .temperature, 273.15⟩
    let kelvin (m : Magnitude Float) : Quantity Float := .plain m (.base .temperature)
    let a := celsius (.array [20, 0 / 0])
    let b := kelvin (.scalar 4)
    let c := kelvin (.array [1, 2, 3])
    (subtract.Admits a b ∧ a.magnitude.Fits b.magnitude ∧
      ∃ r, subtract.apply a b = .ok r ∧ subtract.Memberwise a b r) ∧
    (subtract.Admits a c ∧ ¬ a.magnitude.Fits c.magnitude ∧
      ∃ f, subtract.apply a c = .error f ∧ f.kind = .lengthMismatch) ∧
    (¬ multiply.Admits a c ∧ ∃ f, multiply.apply a c = .error f ∧ f.kind ≠ .lengthMismatch) ∧
    ∃ u, Registry.standard.parse "degF" = .ok u ∧ a.dimension = u.dimension ∧
      ∃ m, a.valueIn .standard "degF" = .ok m ∧ a.ConvertedMemberwise u .standard "degF" m := by
  intro celsius kelvin a b c
  have hfits : a.magnitude.Fits b.magnitude := Or.inr (Or.inr rfl)
  have hnot : ¬ a.magnitude.Fits c.magnitude := by decide
  have hoffset : ¬ multiply.Admits a c := fun h => absurd h.1 (by decide +kernel)
  have hdegF : ∃ u, Registry.standard.parse "degF" = .ok u ∧ a.dimension = u.dimension := by
    decide +kernel
  obtain ⟨u, hu, hd⟩ := hdegF
  exact ⟨⟨rfl, hfits, ((apply_memberwise subtract a b).2.1 rfl).2 hfits⟩,
    ⟨rfl, hnot, ((apply_memberwise subtract a c).2.1 rfl).1.mpr hnot⟩,
    ⟨hoffset, (apply_memberwise multiply a c).1 hoffset⟩,
    u, hu, hd, (apply_memberwise subtract a b).2.2 .standard "degF" u hu hd⟩

end Quantities
