import Quantities.Proofs.Quantity.Comparison
import Quantities.Proofs.Quantity.Order

/-!
# Equality

Two quantities are equal when they agree in their dimension and in all places, as far as their
lengths fit. As a single number takes part in every place, equality can lead from one length to
another one by way of a length of one, and it ends where two lengths do not fit.

* `isEqual_iff`: equality, place by place.
* `IsFinite`: all numbers of a quantity are finite, and so is its offset.
* `agree_iff`: finite numbers agree that are the same multiple.
* `isEqual_trans`: equality leads from one quantity to another one by way of a third one.
* **`isEqual_laws`**: equality is reflexive and symmetric, and transitive as far as lengths fit.
* `isEqual_not_transitive`: no further.
-/

namespace Quantities.Quantity

open Number

variable {a b c : Quantity Float} {x y z p q : Float}

/-! ## Places -/

/-- No difference is seen between two numbers, each with its offset. -/
def Agree (x p y q : Float) : Prop := orderOf (y + q - (x + p)) 0 = .eq

theorem isEqual_of_agree (hd : a.dimension = b.dimension) (hfits : a.magnitude.Fits b.magnitude)
    (hagree : ∀ i x y, a.magnitude.at? i = some x → b.magnitude.at? i = some y →
      Agree x a.offset y b.offset) : a.isEqual b = true := by
  have hone : ∀ m : Magnitude Float, m.Fits (Tolerance.exact (α := Float)).given := fun _ =>
    Or.inr (Or.inr rfl)
  rcases compare_of_suits hd (t := .exact) trivial with ⟨-, m, hm, ho⟩ | ⟨hnot, -⟩
  swap
  · exact absurd ⟨hfits, hone _, hone _⟩ hnot
  have hequal : a.equal b .exact = .ok (m.map (· == .eq)) := by
    rw [equal, test, hm]
    rfl
  have hall : ∀ o ∈ m.members, o = .eq := fun o hmem => by
    obtain ⟨i, hi⟩ := Magnitude.exists_at?_of_mem hmem
    obtain ⟨x, y, z, hx, hy, -, rfl⟩ := ho.at? i o hi
    exact hagree i x y hx hy
  unfold isEqual
  rw [hequal, decide_eq_true hd, Bool.true_and]
  show (m.map (· == .eq)).members.all id = true
  rw [Magnitude.members_map, List.all_map, List.all_eq_true]
  exact fun o ho => beq_iff_eq.mpr (hall o ho)

/-- Equality, place by place. -/
theorem isEqual_iff : a.isEqual b = true ↔ a.dimension = b.dimension ∧
    a.magnitude.Fits b.magnitude ∧ ∀ i x y, a.magnitude.at? i = some x →
      b.magnitude.at? i = some y → Agree x a.offset y b.offset := by
  refine ⟨fun h => ?_, fun ⟨hd, hfits, hagree⟩ => isEqual_of_agree hd hfits hagree⟩
  unfold isEqual at h
  rw [Bool.and_eq_true, decide_eq_true_iff] at h
  obtain ⟨hd, h⟩ := h
  split at h
  · rename_i e he
    obtain ⟨m, hm, rfl⟩ := test_ok he
    obtain ⟨-, -, hfits, ho⟩ := compare_at? hm
    refine ⟨hd, hfits.first, fun i x y hx hy => ?_⟩
    obtain ⟨o, hi⟩ := ho.exists_at? hx hy rfl
    obtain ⟨x', y', z, hx', hy', -, rfl⟩ := ho.at? i o hi
    obtain rfl := Option.some.inj (hx.symm.trans hx')
    obtain rfl := Option.some.inj (hy.symm.trans hy')
    rw [Magnitude.members_map, List.all_map, List.all_eq_true] at h
    exact beq_iff_eq.mp (h _ (Magnitude.mem_of_at? hi))
  · exact nomatch h

/-! ## Numbers -/

/-- All numbers of the quantity are finite, and so is its offset. -/
def IsFinite (q : Quantity Float) : Prop :=
  (∀ x ∈ q.magnitude.members, x.isFinite = true) ∧ q.offset.isFinite = true

instance (q : Quantity Float) : Decidable q.IsFinite := inferInstanceAs (Decidable (_ ∧ _))

theorem IsFinite.isNumber {i : Nat} (h : a.IsFinite) (hx : a.magnitude.at? i = some x) :
    IsNumber (x + a.offset) :=
  isNumber_add (h.1 x (Magnitude.mem_of_at? hx)) h.2

theorem agree_self (x p : Float) : Agree x p x p :=
  orderOf_sub_self (x + p) (not_lt_zero_iff.mpr multiple_zero.ge)

theorem agree_comm : Agree x p y q ↔ Agree y q x p := by
  unfold Agree
  rw [orderOf_sub_swap (y + q) (x + p) (not_lt_zero_iff.mpr multiple_zero.ge), Ordering.swap_eq_eq]

theorem agree_iff (hx : IsNumber (x + p)) (hy : IsNumber (y + q)) :
    Agree x p y q ↔ multiple (x + p) = multiple (y + q) := by
  rw [Agree, orderOf_sub_zero hx hy, compare_eq_iff_eq]

/-! ## Equality -/

/-- The members of two magnitudes that belong to one place belong to one place of a third one as
well, which both of them fit. The third one must have a member, unless there is nothing to find. -/
theorem exists_place {a b c : Magnitude Float} {i : Nat} (hab : a.Fits b) (hbc : b.Fits c)
    (hempty : b.length = 0 → a.length = 0 ∨ c.length = 0) (hx : a.at? i = some x)
    (hz : c.at? i = some z) : ∃ j y, a.at? j = some x ∧ b.at? j = some y ∧ c.at? j = some z := by
  have ha := Magnitude.exists_at?_iff.mp ⟨x, hx⟩
  have hc := Magnitude.exists_at?_iff.mp ⟨z, hz⟩
  unfold Magnitude.Fits at hab hbc
  -- Lone members belong to every place, so they are found in one that `b` has.
  by_cases hlone : a.length = 1 ∧ c.length = 1
  · obtain ⟨y, hy⟩ : ∃ y, b.at? 0 = some y := Magnitude.exists_at?_iff.mpr (by omega)
    rw [Magnitude.at?_of_length_one hlone.1] at hx
    rw [Magnitude.at?_of_length_one hlone.2] at hz
    exact ⟨0, y, hx, hy, hz⟩
  · obtain ⟨y, hy⟩ : ∃ y, b.at? i = some y := Magnitude.exists_at?_iff.mpr (by omega)
    exact ⟨i, y, hx, hy, hz⟩

theorem isEqual_trans (ha : a.IsFinite) (hb : b.IsFinite) (hc : c.IsFinite)
    (hab : a.isEqual b = true) (hbc : b.isEqual c = true)
    (hempty : b.magnitude.length = 0 → a.magnitude.length = 0 ∨ c.magnitude.length = 0)
    (hfits : a.magnitude.Fits c.magnitude) : a.isEqual c = true := by
  obtain ⟨hd, hfab, hagree⟩ := isEqual_iff.mp hab
  obtain ⟨hd', hfbc, hagree'⟩ := isEqual_iff.mp hbc
  refine isEqual_iff.mpr ⟨hd.trans hd', hfits, fun i x z hx hz => ?_⟩
  obtain ⟨j, y, hx, hy, hz⟩ := exists_place hfab hfbc hempty hx hz
  have hxy := (agree_iff (ha.isNumber hx) (hb.isNumber hy)).mp (hagree j x y hx hy)
  have hyz := (agree_iff (hb.isNumber hy) (hc.isNumber hz)).mp (hagree' j y z hy hz)
  exact (agree_iff (ha.isNumber hx) (hc.isNumber hz)).mpr (hxy.trans hyz)

/-- **Equality of quantities.** Every quantity is equal to itself, and equality does not depend on
the order of two quantities. Finite quantities that are equal to the same one are equal to each
other exactly when their lengths fit, provided that the one that they are equal to has a number
wherever both of them do. -/
theorem isEqual_laws (a b c : Quantity Float) :
    a.isEqual a = true ∧ a.isEqual b = b.isEqual a ∧
    (a.IsFinite → b.IsFinite → c.IsFinite → a.isEqual b = true → b.isEqual c = true →
      (b.magnitude.length = 0 → a.magnitude.length = 0 ∨ c.magnitude.length = 0) →
      (a.isEqual c = true ↔ a.magnitude.Fits c.magnitude)) := by
  refine ⟨?_, ?_, fun ha hb hc hab hbc hempty => ⟨fun h => (isEqual_iff.mp h).2.1,
    isEqual_trans ha hb hc hab hbc hempty⟩⟩
  · refine isEqual_iff.mpr ⟨rfl, Or.inl rfl, fun i x y hx hy => ?_⟩
    obtain rfl := Option.some.inj (hx.symm.trans hy)
    exact agree_self x a.offset
  · have hsymm : ∀ {a b : Quantity Float}, a.isEqual b = true → b.isEqual a = true := fun h => by
      obtain ⟨hd, hfits, hagree⟩ := isEqual_iff.mp h
      exact isEqual_iff.mpr ⟨hd.symm, hfits.symm, fun i y x hy hx =>
        agree_comm.mp (hagree i x y hx hy)⟩
    exact Bool.eq_iff_iff.mpr ⟨hsymm, hsymm⟩

/-- The same temperature, read once, twice and once more, in degrees Celsius and in kelvin. -/
theorem isEqual_laws_temperatures :
    let celsius (m : Magnitude Float) : Quantity Float := ⟨m, .base .temperature, 273.15⟩
    let kelvin (m : Magnitude Float) : Quantity Float := .plain m (.base .temperature)
    let a := celsius (.scalar 20)
    let b := kelvin (.array [20 + 273.15, 20 + 273.15])
    let c := celsius (.array [20])
    (a.IsFinite ∧ b.IsFinite ∧ c.IsFinite) ∧ (a.isEqual b = true ∧ b.isEqual c = true) ∧
      a.isEqual a = true ∧ b.isEqual a = true ∧ a.magnitude.Fits c.magnitude ∧
        a.isEqual c = true := by
  intro celsius kelvin a b c
  have hfinite : a.IsFinite ∧ b.IsFinite ∧ c.IsFinite := by decide +kernel
  have hequal : a.isEqual b = true ∧ b.isEqual c = true := by decide +kernel
  have hfits : a.magnitude.Fits c.magnitude := by decide
  obtain ⟨hself, hsymm, htrans⟩ := isEqual_laws a b c
  exact ⟨hfinite, hequal, hself, hsymm ▸ hequal.1, hfits,
    (htrans hfinite.1 hfinite.2.1 hfinite.2.2 hequal.1 hequal.2 (by decide)).mpr hfits⟩

/-- One metre is equal to two of it in a list, and to three of it, which are not equal to each
other. -/
theorem isEqual_not_transitive :
    let metres (m : Magnitude Float) : Quantity Float := .plain m (.base .length)
    let a := metres (.array [1, 1])
    let b := metres (.scalar 1)
    let c := metres (.array [1, 1, 1])
    (a.IsFinite ∧ b.IsFinite ∧ c.IsFinite) ∧ a.isEqual b = true ∧ b.isEqual c = true ∧
      a.isEqual c = false := by
  decide +kernel

end Quantities.Quantity
