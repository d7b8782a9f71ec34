import Quantities.Proofs.Quantity.Memberwise
import Quantities.Proofs.Unit.Regular

/-!
# Conversion there and back

Over exact numbers a conversion into a unit loses nothing, offsets included: a unit string stands
for a positive number, so that the value in a unit, taken as that many of the unit, is the same
point of its dimension.

* `SamePoint`: two quantities of one dimension lie equally far from its true zero. No conversion
  tells them apart (`SamePoint.valueIn`).
* `inUnit_of_scalar`, `quantity_of_parse`: a unit of one number is divided by member by member, and
  multiplied with.
* **`valueIn_quantity`**: in every registry that insertions lead to, a number of units has that
  value in the unit, and a quantity that was converted and rebuilt is the same point.
-/

namespace Quantities.Quantity

/-! ## Points of a dimension -/

section

variable {α : Type} [Scalar α] {p q u : Quantity α} {reg : Registry α} {text : String} {s : α}

/-- The quantities lie equally far from the true zero of the same dimension. -/
structure SamePoint (p q : Quantity α) : Prop where
  dimension : p.dimension = q.dimension
  effective : p.effective = q.effective

/-- No conversion tells the two apart. -/
theorem SamePoint.valueIn (h : p.SamePoint q) (reg : Registry α) (text : String) :
    p.valueIn reg text = q.valueIn reg text := by
  simp only [Quantity.valueIn, convert, inUnit, h.dimension, h.effective]

theorem inUnit_of_scalar (hs : u.magnitude = .scalar s) (q : Quantity α) :
    q.inUnit u = .ok (q.magnitude.map fun x => (x + q.offset - u.offset) / s) := by
  rw [inUnit_eq, hs, Magnitude.combine_number]

theorem quantity_of_parse (hu : reg.parse text = .ok u) (hs : u.magnitude = .scalar s)
    (m : Magnitude α) :
    reg.quantity (.ok m) text = .ok ⟨m.map fun x => x * s, u.dimension, u.offset⟩ := by
  have hunit : reg.parseUnit (some text) = .ok u := hu
  have hm : Magnitude.combine (· * ·) m u.magnitude = .ok (m.map fun x => x * s) := by
    rw [hs, Magnitude.combine_number]
  rw [Registry.quantity, hunit]
  simp only [bind, Except.bind, hm]

end

/-! ## Exact numbers -/

variable {q u : Quantity ℚ} {s : ℚ}

/-- As many units as a magnitude says have that magnitude for their value. -/
theorem inUnit_units (hs : u.magnitude = .scalar s) (hpos : 0 < s) (m : Magnitude ℚ) :
    (⟨m.map fun x => x * s, u.dimension, u.offset⟩ : Quantity ℚ).inUnit u = .ok m := by
  have hback : ∀ x : ℚ, (x * s + u.offset - u.offset) / s = x := fun x => by
    rw [add_sub_cancel_right, mul_div_cancel_right₀ x hpos.ne']
  rw [inUnit_of_scalar hs, Magnitude.map_map, Magnitude.map_eq_self hback]

/-- As many units as the value of a quantity says make up the same point. -/
theorem samePoint_units (hpos : 0 < s) (hd : q.dimension = u.dimension) :
    SamePoint ⟨(q.magnitude.map fun x => (x + q.offset - u.offset) / s).map fun x => x * s,
      u.dimension, u.offset⟩ q := by
  have hback : ∀ x : ℚ, (x + q.offset - u.offset) / s * s + u.offset = x + q.offset := fun x => by
    rw [div_mul_cancel₀ _ hpos.ne', sub_add_cancel]
  refine ⟨hd.symm, ?_⟩
  rw [effective, effective, Magnitude.map_map, Magnitude.map_map]
  exact congrArg q.magnitude.map (funext hback)

/-- **Conversion loses nothing.** In every registry that insertions lead to, whatever a unit string
stands for is a positive number. As many of that unit as a magnitude says have that magnitude for
their value in it. A quantity of its dimension that is converted into it and rebuilt from the value
is the same point, and so has the same value in every unit. -/
theorem valueIn_quantity (calls : List (List (Outcome (Insertion ℚ)))) {start : Registry ℚ}
    (hstart : start ∈ [.empty, .standard]) {text : String} {u : Quantity ℚ}
    (hu : (start.afterCalls calls).parse text = .ok u) :
    let reg := start.afterCalls calls
    u.IsPositive ∧
    (∀ x, ∃ p, reg.quantity (.ok x) text = .ok p ∧ p.valueIn reg text = .ok x) ∧
    ∀ q, q.dimension = u.dimension → ∃ m p, q.valueIn reg text = .ok m ∧
      reg.quantity (.ok m) text = .ok p ∧ p.SamePoint q ∧
        ∀ other, p.valueIn reg other = q.valueIn reg other := by
  intro reg
  have hpositive : u.IsPositive :=
    (Registry.closed_isPositive (Registry.regular_afterCalls calls hstart)).parse hu
  obtain ⟨s, hs, hpos⟩ := hpositive
  refine ⟨⟨s, hs, hpos⟩, fun x => ?_, fun q hd => ?_⟩
  · refine ⟨_, quantity_of_parse hu hs x, (valueIn_of_parse hu ?_).trans (inUnit_units hs hpos x)⟩
    rfl
  · have hsame := samePoint_units (q := q) hpos hd
    exact ⟨_, _, (valueIn_of_parse hu hd).trans (inUnit_of_scalar hs q),
      quantity_of_parse hu hs _, hsame, hsame.valueIn reg⟩

/-- The scale of a thermometer that shows 100 for 60 °C and 0 for -20 °C, defined by degrees
Celsius and by itself, with a reading of degrees Fahrenheit. -/
theorem valueIn_quantity_thermometer :
    let calls : List (List (Outcome (Insertion ℚ))) :=
      [[.ok (.definition "mark" (.scalar 0.8) (some "deltaC") 316.4375),
        .ok (.definition "mark" (.scalar 1) (some "m") 0)],
       [.error .badValue], [.ok (.otherName (.text "degX") "mark")]]
    let reg := Registry.standard.afterCalls calls
    Registry.standard ∈ [Registry.empty, (Registry.standard : Registry ℚ)] ∧
    ∃ u, reg.parse "degX" = .ok u ∧ u.IsPositive ∧
      (∃ p, reg.quantity (.ok (.array [0, 100])) "degX" = .ok p ∧
        p.valueIn reg "degX" = .ok (.array [0, 100])) ∧
      ∃ q, reg.quantity (.ok (.scalar 70)) "degF" = .ok q ∧ q.dimension = u.dimension ∧
        ∃ m p, q.valueIn reg "degX" = .ok m ∧ reg.quantity (.ok m) "degX" = .ok p ∧
          p.SamePoint q ∧ p.valueIn reg "degC" = q.valueIn reg "degC" := by
  intro calls reg
  have hstart : Registry.standard ∈ [Registry.empty, (Registry.standard : Registry ℚ)] :=
    List.mem_pair.mpr (Or.inr rfl)
  have hdegX : ∃ u, reg.parse "degX" = .ok u ∧ u.dimension = .base .temperature := by
    decide +kernel
  have hdegF : ∃ q, reg.quantity (.ok (.scalar 70)) "degF" = .ok q ∧
      q.dimension = .base .temperature := by decide +kernel
  obtain ⟨u, hu, hd⟩ := hdegX
  obtain ⟨q, hq, hqd⟩ := hdegF
  obtain ⟨hpositive, hunits, hback⟩ := valueIn_quantity calls hstart hu
  obtain ⟨m, p, hm, hp, hsame, hother⟩ := hback q (hqd.trans hd.symm)
  exact ⟨hstart, u, hu, hpositive, hunits _, q, hq, hqd.trans hd.symm, m, p, hm, hp, hsame,
    hother "degC"⟩

end Quantities.Quantity
