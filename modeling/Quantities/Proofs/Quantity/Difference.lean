import Quantities.Proofs.Quantity.Memberwise

/-!
# Points and differences

A quantity with an offset is a point of a scale, and one without an offset is a difference. Over
exact numbers sums and differences keep to that: on the effective magnitudes they are plain addition
and subtraction, whatever scales the operands are on, and the offset of the result says whether it
is a point or a difference.

* `Magnitude.Repeats` and `Quantity.Restores`: a magnitude, or a quantity, that is another one with
  its members repeated to the length of a combination.
* `exists_subtract`, `exists_add`: the members, the dimension and the offset of a difference and of
  a sum; `effective_subtract` and `effective_add` are the same for effective magnitudes.
* `subtract_add` and `add_subtract`: a difference that is added and taken off again, or the other
  way round, leaves the quantity that it was added to. `add_subtract_point`: the difference of two
  points leads from the second one to the first.
* **`sum_difference`** is all of that in one.
-/

namespace Quantities

namespace Magnitude

variable {α β : Type}

/-- The magnitude `m` is `a`, with its members repeated to the length that `a` and `b` have
together. -/
abbrev Repeats (a : Magnitude α) (b : Magnitude β) (m : Magnitude α) : Prop :=
  Combines (fun x _ => x) a b m

end Magnitude

open Magnitude (Combines Repeats)

namespace Arithmetic

variable {α : Type} [Scalar α] [Scalar.Grounded α] {a b : Quantity α}

/-- Operands that are admitted and fit have a result. -/
theorem exists_result (op : Arithmetic) (h : op.Admits a b)
    (hfits : a.magnitude.Fits b.magnitude) :
    ∃ r, op.apply a b = .ok r ∧ Combines (op.number a b) a.magnitude b.magnitude r.magnitude ∧
      r.dimension = op.dimension a b ∧ r.offset = op.offset a b := by
  obtain ⟨m, hm, hc⟩ := Magnitude.combine_of_fits (op.number a b) hfits
  refine ⟨⟨m, op.dimension a b, op.offset a b⟩, ?_, hc, rfl, rfl⟩
  rw [apply_of_admits h, hm]
  rfl

end Arithmetic

namespace Quantity

variable {a b r s : Quantity ℚ}

/-! ## Members -/

theorem hasOffset_eq_false : b.hasOffset = false ↔ b.offset = 0 := bne_eq_false_iff_eq

/-- The difference of two quantities of one dimension. Whether it is a point or a difference, its
members are those of the effective magnitudes, less its own offset. -/
theorem exists_subtract (hd : a.dimension = b.dimension) (hfits : a.magnitude.Fits b.magnitude) :
    ∃ r, a.subtract b = .ok r ∧ r.dimension = a.dimension ∧
      r.offset = (if b.offset = 0 then a.offset else 0) ∧
      Combines (fun x y => x + a.offset - (y + b.offset) - r.offset) a.magnitude b.magnitude
        r.magnitude := by
  obtain ⟨r, hr, hc, hdim, hoffset⟩ := Arithmetic.exists_result .subtract hd hfits
  have hoffset : r.offset = if b.hasOffset then 0 else a.offset := hoffset
  refine ⟨r, hr, hdim, ?_, ?_⟩
  · cases hb : b.hasOffset with
    | true =>
      rw [hoffset, hb, if_pos rfl, if_neg fun h0 => ?_]
      exact nomatch hb.symm.trans (hasOffset_eq_false.mpr h0)
    | false =>
      rw [hoffset, hb, if_pos (hasOffset_eq_false.mp hb)]
      rfl
  · refine hc.congr fun x y => ?_
    show (if b.hasOffset then x + a.offset - (y + b.offset)
      else x + a.offset - (y + b.offset) - a.offset) = _
    rw [hoffset]
    split
    · exact (sub_zero _).symm
    · rfl

/-- The sum of two quantities of one dimension, of which the second one is a difference. -/
theorem exists_add (hd : a.dimension = b.dimension) (hfits : a.magnitude.Fits b.magnitude)
    (hb : b.offset = 0) : ∃ s, a.add b = .ok s ∧ s.dimension = a.dimension ∧ s.offset = a.offset ∧
      Combines (fun x y => x + y) a.magnitude b.magnitude s.magnitude := by
  obtain ⟨s, hs, hc, hdim, hoffset⟩ :=
    Arithmetic.exists_result .add ⟨hd, hasOffset_eq_false.mpr hb⟩ hfits
  exact ⟨s, hs, hdim, hoffset, hc⟩

/-! ## Effective magnitudes -/

theorem effective_subtract (h : Combines (fun x y => x + a.offset - (y + b.offset) - r.offset)
    a.magnitude b.magnitude r.magnitude) :
    Combines (fun x y => x - y) a.effective b.effective r.effective :=
  h.map fun x y => sub_add_cancel (x + a.offset - (y + b.offset)) r.offset

theorem effective_add (hb : b.offset = 0) (hs : s.offset = a.offset)
    (h : Combines (fun x y => x + y) a.magnitude b.magnitude s.magnitude) :
    Combines (fun x y => x + y) a.effective b.effective s.effective := by
  refine h.map fun x y => ?_
  rw [hs, hb]
  ring

/-! ## There and back -/

/-- The quantity `r` is `a`, with its members repeated to the length that `a` and `b` have
together. -/
structure Restores (a b r : Quantity ℚ) : Prop where
  magnitude : Repeats a.magnitude b.magnitude r.magnitude
  dimension : r.dimension = a.dimension
  offset : r.offset = a.offset

/-- A difference that is added and taken off again. -/
theorem subtract_add (hd : a.dimension = b.dimension) (hfits : a.magnitude.Fits b.magnitude)
    (hb : b.offset = 0) :
    ∃ s r, a.add b = .ok s ∧ s.subtract b = .ok r ∧ Restores a b r := by
  obtain ⟨s, hs, hsd, hso, hsc⟩ := exists_add hd hfits hb
  obtain ⟨r, hr, hrd, hro, hrc⟩ := exists_subtract (hsd.trans hd) (hsc.fits hfits)
  rw [if_pos hb, hso] at hro
  refine ⟨s, r, hs, hr, (hsc.trans hrc).congr fun x y => ?_, hrd.trans hsd, hro⟩
  rw [hso, hro, hb]
  ring

/-- A difference that is taken off and added again. -/
theorem add_subtract (hd : a.dimension = b.dimension) (hfits : a.magnitude.Fits b.magnitude)
    (hb : b.offset = 0) :
    ∃ r s, a.subtract b = .ok r ∧ r.add b = .ok s ∧ Restores a b s := by
  obtain ⟨r, hr, hrd, hro, hrc⟩ := exists_subtract hd hfits
  obtain ⟨s, hs, hsd, hso, hsc⟩ := exists_add (hrd.trans hd) (hrc.fits hfits) hb
  rw [if_pos hb] at hro
  refine ⟨r, s, hr, hs, (hrc.trans hsc).congr fun x y => ?_, hsd.trans hrd, hso.trans hro⟩
  rw [hro, hb]
  ring

/-- The difference of two points, added to the second one, leads to the first one. -/
theorem add_subtract_point (hd : a.dimension = b.dimension)
    (hfits : a.magnitude.Fits b.magnitude) (hb : b.offset ≠ 0) :
    ∃ r s, a.subtract b = .ok r ∧ r.offset = 0 ∧ b.add r = .ok s ∧ s.dimension = b.dimension ∧
      s.offset = b.offset ∧ Repeats a.effective b.effective s.effective := by
  obtain ⟨r, hr, hrd, hro, hrc⟩ := exists_subtract hd hfits
  rw [if_neg hb] at hro
  have hrb : r.magnitude.Fits b.magnitude := hrc.fits hfits
  obtain ⟨s, hs, hsd, hso, hsc⟩ := exists_add (hd.symm.trans hrd.symm) hrb.symm hro
  refine ⟨r, s, hr, hro, hs, hsd, hso, (hrc.trans (hsc.swap hrb.symm)).map fun x y => ?_⟩
  rw [hro, hso]
  ring

/-- **Sums and differences of points and differences.** Let two quantities of exact numbers have
one dimension and lengths that fit. Their difference has the difference of the effective magnitudes,
and the offset of the first one when the second one is a difference. Then there is also a sum, which
has the sum of the effective magnitudes, and both can be undone. When the second one is a point,
what leads from it to the first one is a difference. -/
theorem sum_difference (a b : Quantity ℚ) (hd : a.dimension = b.dimension)
    (hfits : a.magnitude.Fits b.magnitude) :
    (∃ r, a.subtract b = .ok r ∧ r.dimension = a.dimension ∧
      Combines (fun x y => x - y) a.effective b.effective r.effective ∧
      r.offset = if b.offset = 0 then a.offset else 0) ∧
    (b.offset = 0 →
      (∃ s, a.add b = .ok s ∧ s.dimension = a.dimension ∧
        Combines (fun x y => x + y) a.effective b.effective s.effective) ∧
      (∃ s r, a.add b = .ok s ∧ s.subtract b = .ok r ∧ Restores a b r) ∧
      ∃ r s, a.subtract b = .ok r ∧ r.add b = .ok s ∧ Restores a b s) ∧
    (b.offset ≠ 0 → ∃ r s, a.subtract b = .ok r ∧ r.offset = 0 ∧ b.add r = .ok s ∧
      s.dimension = b.dimension ∧ s.offset = b.offset ∧
      Repeats a.effective b.effective s.effective) := by
  refine ⟨?_, fun hb => ⟨?_, subtract_add hd hfits hb, add_subtract hd hfits hb⟩,
    add_subtract_point hd hfits⟩
  · obtain ⟨r, hr, hrd, hro, hrc⟩ := exists_subtract hd hfits
    exact ⟨r, hr, hrd, effective_subtract hrc, hro⟩
  · obtain ⟨s, hs, hsd, hso, hsc⟩ := exists_add hd hfits hb
    exact ⟨s, hs, hsd, effective_add hb hso hsc⟩

/-- Readings in degrees Celsius, less a number of kelvins, and less a reading in degrees
Fahrenheit. -/
theorem sum_difference_celsius :
    let celsius : Quantity ℚ := ⟨.array [20, -5], .base .temperature, 273.15⟩
    let kelvins : Quantity ℚ := ⟨.scalar 4, .base .temperature, 0⟩
    let fahrenheit : Quantity ℚ := ⟨.array [10], .base .temperature, 459.67 * 5 / 9⟩
    (celsius.dimension = kelvins.dimension ∧ celsius.magnitude.Fits kelvins.magnitude ∧
      kelvins.offset = 0 ∧ ∃ s r, celsius.add kelvins = .ok s ∧ s.subtract kelvins = .ok r ∧
        Restores celsius kelvins r) ∧
    (celsius.dimension = fahrenheit.dimension ∧ celsius.magnitude.Fits fahrenheit.magnitude ∧
      fahrenheit.offset ≠ 0 ∧ ∃ r s, celsius.subtract fahrenheit = .ok r ∧ r.offset = 0 ∧
        fahrenheit.add r = .ok s ∧ s.dimension = fahrenheit.dimension ∧
        s.offset = fahrenheit.offset ∧
        Repeats celsius.effective fahrenheit.effective s.effective) := by
  intro celsius kelvins fahrenheit
  have hkelvins : celsius.magnitude.Fits kelvins.magnitude := Or.inr (Or.inr rfl)
  have hfahrenheit : celsius.magnitude.Fits fahrenheit.magnitude := Or.inr (Or.inr rfl)
  have hoffset : fahrenheit.offset ≠ 0 := by decide +kernel
  exact ⟨⟨rfl, hkelvins, rfl, ((sum_difference celsius kelvins rfl hkelvins).2.1 rfl).2.1⟩,
    rfl, hfahrenheit, hoffset, (sum_difference celsius fahrenheit rfl hfahrenheit).2.2 hoffset⟩

end Quantity

end Quantities
