import Quantities.Proofs.Unit.Closure
import Quantities.Proofs.Unit.Insertion
import Quantities.Unit.Standard

/-!
# Registries of numbers

A registry is `Regular` when every unit in it is given by one number, which is a factor, and every
prefix is a factor. The numbers may be of any kind.

* `Regular.insertAll`: insertions keep a registry regular, whether they succeed or fail;
  `afterCalls` is a registry after several calls that insert.
* **`regular_afterCalls`**: any calls lead to regular registries, from nothing and from the standard
  units.
* `closed_isPositive`: over exact numbers every unit string of a regular registry stands for a
  positive number.
-/

namespace Quantities

namespace UnitEntry

variable {α : Type} [Scalar α]

theorem form_make {symbol : String} {scale offset : α} {d : Dimension} {e : UnitEntry α}
    (h : make symbol scale d offset = .ok e) : e.form = .number := by
  unfold make at h
  split at h
  · exact nomatch h
  · split at h
    · exact nomatch h
    · exact Except.ok.inj h ▸ rfl

end UnitEntry

namespace Registry

variable {α : Type} [Scalar α] {reg reg' : Registry α}

/-- All units and prefixes are numbers that serve as factors. -/
structure Regular (reg : Registry α) : Prop where
  unit : ∀ u ∈ reg.units, u.2.IsSound ∧ u.2.form = .number
  factor : ∀ p ∈ reg.prefixes, Scalar.isFactor p.2 = true

/-! ## Insertions -/

/-- A unit that was judged keeps a registry regular. -/
theorem Regular.register {symbol : String} {scale offset : α} {d : Dimension} {e : UnitEntry α}
    (hreg : reg.Regular) (he : UnitEntry.make symbol scale d offset = .ok e)
    (h : reg.register e = .ok reg') : reg'.Regular := by
  obtain ⟨-, -, rfl⟩ := register_ok.mp h
  have hsound := UnitEntry.isSound_make he
  have hform : e.form = .number := UnitEntry.form_make he
  refine ⟨List.forall_mem_append.mpr ⟨hreg.unit, List.forall_mem_singleton.mpr ?_⟩, hreg.factor⟩
  exact ⟨⟨hsound.scale, hsound.offset⟩, hform⟩

/-- **An insertion keeps a registry regular.** -/
theorem Regular.insert {i : Insertion α} (hreg : reg.Regular) (h : reg.insert i = .ok reg') :
    reg'.Regular := by
  cases i with
  | unit symbol scale dimension offset =>
    obtain ⟨e, he, h⟩ := Outcome.bind_ok.mp h
    exact hreg.register he h
  | otherName name target =>
    obtain ⟨-, -, rfl⟩ := registerName_ok.mp h
    exact ⟨hreg.unit, hreg.factor⟩
  | prefixFactor symbol factor =>
    have h : reg.registerPrefix symbol factor = .ok reg' := h
    obtain ⟨-, -, hfactor, rfl⟩ := registerPrefix_ok.mp h
    exact ⟨hreg.unit, List.forall_mem_append.mpr
      ⟨hreg.factor, List.forall_mem_singleton.mpr hfactor⟩⟩
  | definition symbol magnitude text offset =>
    obtain ⟨⟨reg'', e⟩, hdefine, h⟩ := Outcome.bind_ok.mp h
    obtain rfl := Except.ok.inj h
    obtain ⟨⟨_, _, _, he⟩, hregister⟩ := define_ok hdefine
    exact hreg.register he hregister

theorem Regular.insertAll : ∀ {steps : List (Outcome (Insertion α))} {reg : Registry α},
    reg.Regular → (reg.insertAll steps).1.Regular
  | [], _, hreg => hreg
  | step :: steps, reg, hreg => by
    unfold Registry.insertAll
    split
    · rename_i reg' h
      obtain ⟨i, -, hi⟩ := Outcome.bind_ok.mp h
      exact (hreg.insert hi).insertAll
    · exact hreg

/-! ## Calls -/

/-- The registry after calls, each of which inserts several things up to its first failure. -/
def afterCalls (reg : Registry α) (calls : List (List (Outcome (Insertion α)))) : Registry α :=
  calls.foldl (fun reg steps => (reg.insertAll steps).1) reg

theorem Regular.afterCalls : ∀ {calls : List (List (Outcome (Insertion α)))} {reg : Registry α},
    reg.Regular → (reg.afterCalls calls).Regular
  | [], _, hreg => hreg
  | _ :: _, _, hreg => hreg.insertAll.afterCalls

theorem regular_empty : (empty : Registry α).Regular where
  unit _ h := nomatch h
  factor _ h := nomatch h

theorem standard_units : ∀ u ∈ (standard : Registry ℚ).units,
    (Scalar.isFactor u.2.scale = true ∧ Scalar.isFinite u.2.offset = true) ∧
      u.2.form = .number := by decide +kernel

theorem regular_standard : (standard : Registry ℚ).Regular where
  unit u hu := ⟨⟨(standard_units u hu).1.1, (standard_units u hu).1.2⟩, (standard_units u hu).2⟩
  factor := by decide +kernel

/-- **Any calls lead to regular registries.** -/
theorem regular_afterCalls (calls : List (List (Outcome (Insertion ℚ)))) {start : Registry ℚ}
    (hstart : start ∈ [empty, standard]) : (start.afterCalls calls).Regular := by
  rcases List.mem_pair.mp hstart with rfl | rfl
  · exact regular_empty.afterCalls
  · exact regular_standard.afterCalls

end Registry

/-! ## Positive numbers -/

/-- The quantity is one number above zero. -/
def Quantity.IsPositive (q : Quantity ℚ) : Prop := ∃ x, q.magnitude = .scalar x ∧ 0 < x

theorem Scalar.isFactor_iff {x : ℚ} : isFactor x = true ↔ 0 < x := by
  simp [isFactor, lt, isFinite]

namespace Quantity

variable {p q r : Quantity ℚ}

theorem IsPositive.multiply (hp : p.IsPositive) (hq : q.IsPositive) (h : p.multiply q = .ok r) :
    r.IsPositive := by
  obtain ⟨x, hx, hxpos⟩ := hp
  obtain ⟨y, hy, hypos⟩ := hq
  unfold Quantity.multiply at h
  split at h
  · exact nomatch h
  · rw [hx, hy] at h
    obtain rfl := Except.ok.inj h
    exact ⟨x * y, rfl, mul_pos hxpos hypos⟩

theorem IsPositive.invert (hp : p.IsPositive) (h : p.invert = .ok q) : q.IsPositive := by
  obtain ⟨x, hx, hxpos⟩ := hp
  unfold Quantity.invert at h
  split at h
  · exact nomatch h
  · rw [hx] at h
    obtain rfl := Except.ok.inj h
    exact ⟨1 / x, rfl, one_div_pos.mpr hxpos⟩

theorem IsPositive.power {n : Int} (hp : p.IsPositive) (h : p.power n = .ok q) :
    q.IsPositive := by
  obtain ⟨x, hx, hxpos⟩ := hp
  unfold Quantity.power at h
  split at h
  · exact nomatch h
  split at h
  · exact nomatch h
  split at h
  · rw [hx] at h
    obtain rfl := Except.ok.inj h
    exact ⟨1, rfl, one_pos⟩
  split at h
  · exact Except.ok.inj h ▸ ⟨x, hx, hxpos⟩
  split at h
  · exact nomatch h
  · rw [hx] at h
    obtain rfl := Except.ok.inj h
    exact ⟨x ^ n, rfl, zpow_pos hxpos n⟩

end Quantity

/-- **Every unit string of a regular registry stands for a positive number.** -/
theorem Registry.closed_isPositive {reg : Registry ℚ} (h : reg.Regular) :
    reg.Closed Quantity.IsPositive where
  unity := ⟨1, rfl, one_pos⟩
  factor s x hx := ⟨x, rfl, Scalar.isFactor_iff.mp (h.factor _ hx)⟩
  unit s e one he hone := by
    obtain ⟨hsound, hform⟩ := h.unit _ he
    rw [UnitEntry.quantity, hform] at hone
    obtain rfl := Except.ok.inj hone
    exact ⟨e.scale, rfl, Scalar.isFactor_iff.mp hsound.scale⟩
  multiply _ _ _ hp hq := hp.multiply hq
  invert _ _ hp := hp.invert
  power _ _ _ hp := hp.power

end Quantities
