import Quantities.Proofs.Quantity.Form
import Quantities.Proofs.Unit.Growth
import Quantities.Proofs.Unit.Regular

/-!
# Where offsets come from

An offset belongs to a unit, and it stays with the dimension of that unit: no operation makes an
offset out of others, and none carries it over to another dimension.

* `OffsetFrom`: a result has no offset, or it has the offset of an operand together with its
  dimension. `offsetFrom_add` and the lemmas beside it say that every operation keeps to this, the
  first operand being the one whose offset can stay.
* `Anchored`: a quantity has no offset, or some unit of a registry has both its offset and its
  dimension. What comes from an anchored quantity is anchored (`OffsetFrom.anchored`).
* `closed_anchored`: so is what any unit string stands for, and with it a number of units
  (`anchored_quantity`). Since no unit is ever removed, all that stays true while a registry grows
  (`Anchored.reaches`).
* **`run_anchored`**: so every computation on numbers of units and plain numbers ends in an anchored
  quantity.
-/

namespace Quantities

theorem Dimension.root?_one (d : Dimension) : d.root? 1 = some d := by
  unfold root?
  simp

namespace Quantity

/-! ## Operations -/

section

variable {α : Type} [Scalar α] {a b r : Quantity α}

/-- The quantity has no offset, or it has that of `a`, and its dimension too. -/
def OffsetFrom (a r : Quantity α) : Prop :=
  r.offset = 0 ∨ (r.offset = a.offset ∧ r.dimension = a.dimension)

/-- A step in front that has a say in other things only. -/
theorem offsetFrom_bind {β : Type} {y : Outcome β} {g : β → Outcome (Quantity α)}
    (hg : ∀ b, g b = .ok r → a.OffsetFrom r) (h : y >>= g = .ok r) : a.OffsetFrom r := by
  obtain ⟨b, -, h⟩ := Outcome.bind_ok.mp h
  exact hg b h

theorem offsetFrom_add (h : a.add b = .ok r) : a.OffsetFrom r := by
  obtain ⟨_, -, h⟩ := Outcome.bind_ok.mp h
  split at h
  · exact nomatch h
  · obtain ⟨m, -, h⟩ := Outcome.bind_ok.mp h
    obtain rfl := Except.ok.inj h
    exact Or.inr ⟨rfl, rfl⟩

theorem offsetFrom_subtract (h : a.subtract b = .ok r) : a.OffsetFrom r := by
  obtain ⟨_, -, h⟩ := Outcome.bind_ok.mp h
  obtain ⟨m, -, h⟩ := Outcome.bind_ok.mp h
  split at h
  · obtain rfl := Except.ok.inj h
    exact Or.inl rfl
  · obtain rfl := Except.ok.inj h
    exact Or.inr ⟨rfl, rfl⟩

theorem offsetFrom_multiply (h : a.multiply b = .ok r) : a.OffsetFrom r := by
  unfold multiply at h
  split at h
  · exact nomatch h
  · obtain ⟨m, -, h⟩ := Outcome.bind_ok.mp h
    obtain rfl := Except.ok.inj h
    exact Or.inl rfl

theorem offsetFrom_invert (h : a.invert = .ok r) : a.OffsetFrom r := by
  unfold invert at h
  split at h
  · exact nomatch h
  · obtain rfl := Except.ok.inj h
    exact Or.inl rfl

theorem offsetFrom_divide (h : a.divide b = .ok r) : a.OffsetFrom r := by
  unfold divide at h
  split at h
  · exact nomatch h
  · exact offsetFrom_bind (fun _ => offsetFrom_multiply) h

/-- Only the power one keeps an offset, and it keeps everything else, too. -/
theorem offsetFrom_power {n : Int} (h : a.power n = .ok r) : a.OffsetFrom r := by
  unfold power at h
  split at h
  · exact nomatch h
  split at h
  · exact nomatch h
  split at h
  · exact Except.ok.inj h ▸ Or.inl rfl
  split at h
  · exact Except.ok.inj h ▸ Or.inr ⟨rfl, rfl⟩
  split at h
  · exact nomatch h
  · exact Except.ok.inj h ▸ Or.inl rfl

end

section

variable {α : Type} [Rooted α] {a r : Quantity α}

/-- Only the root of degree one keeps an offset, and it leaves the dimension as it is. -/
theorem offsetFrom_root {n : Int} (h : a.root n = .ok r) : a.OffsetFrom r := by
  unfold root at h
  split at h
  · exact nomatch h
  split at h
  · exact nomatch h
  split at h
  · exact nomatch h
  split at h
  · exact nomatch h
  rename_i d hd
  split at h
  · rename_i hn
    rw [hn, Dimension.root?_one] at hd
    obtain rfl := Except.ok.inj h
    exact Or.inr ⟨rfl, (Option.some.inj hd).symm⟩
  split at h
  · exact nomatch h
  · obtain rfl := Except.ok.inj h
    exact Or.inl rfl

end

/-! ## Units -/

variable {α : Type} [Scalar α] {reg reg' : Registry α} {a r q : Quantity α}

/-- The quantity has no offset, or it has that of a unit of its dimension. -/
def Anchored (reg : Registry α) (q : Quantity α) : Prop :=
  q.offset = 0 ∨ ∃ s e, (s, e) ∈ reg.units ∧ e.offset = q.offset ∧ e.dimension = q.dimension

theorem OffsetFrom.anchored (h : a.OffsetFrom r) (ha : a.Anchored reg) : r.Anchored reg := by
  rcases h with h | ⟨hoffset, hdimension⟩
  · exact Or.inl h
  · unfold Anchored
    rw [hoffset, hdimension]
    exact ha

theorem anchored_number (m : Magnitude α) : (number m).Anchored reg := Or.inl rfl

/-- The evaluation of unit strings starts with one of each unit, which has its offset and its
dimension. -/
theorem closed_anchored (reg : Registry α) : reg.Closed (Anchored reg) where
  unity := anchored_number _
  factor _ x _ := anchored_number (.scalar x)
  unit s e one he hone := by
    obtain ⟨-, hdimension, hoffset⟩ := UnitEntry.quantity_ok hone
    exact Or.inr ⟨s, e, he, hoffset.symm, hdimension.symm⟩
  multiply _ _ _ hp _ h := (offsetFrom_multiply h).anchored hp
  invert _ _ hp h := (offsetFrom_invert h).anchored hp
  power _ _ _ hp h := (offsetFrom_power h).anchored hp

/-- A number of units has the offset and the dimension of the unit. -/
theorem anchored_quantity {m : Outcome (Magnitude α)} {text : Option String}
    (h : reg.quantity m text = .ok q) : q.Anchored reg := by
  obtain ⟨u, hu, h⟩ := Outcome.bind_ok.mp h
  obtain ⟨m', -, h⟩ := Outcome.bind_ok.mp h
  obtain ⟨m'', -, h⟩ := Outcome.bind_ok.mp h
  obtain rfl := Except.ok.inj h
  cases text with
  | none =>
    obtain rfl := Except.ok.inj hu
    exact Or.inl rfl
  | some text =>
    have hu : u.Anchored reg := (closed_anchored reg).parse hu
    exact hu

/-- What a quantity is anchored in stays, since no unit is ever removed. -/
theorem Anchored.reaches (hq : q.Anchored reg) (h : Registry.Reaches reg reg') :
    q.Anchored reg' := by
  rcases hq with h0 | ⟨s, e, he, hoffset, hdimension⟩
  · exact Or.inl h0
  · exact Or.inr ⟨s, e, h.mem_units he, hoffset, hdimension⟩

/-! ## Computations -/

/-- The quantities that computations start with: plain numbers, and numbers of units. -/
inductive Given (reg : Registry α) : Quantity α → Prop
  | number (m : Magnitude α) : Given reg (number m)
  | units {m : Outcome (Magnitude α)} {text : Option String} {q : Quantity α}
      (h : reg.quantity m text = .ok q) : Given reg q

theorem Given.anchored (h : q.Given reg) : q.Anchored reg := by
  cases h with
  | number m => exact anchored_number m
  | units h => exact anchored_quantity h

end Quantity

namespace Computation

variable {ι α : Type} [Rooted α] {reg : Registry α} {value : ι → Quantity α} {q : Quantity α}

/-- What a step makes of the value of a part is anchored, when its offset is from there. -/
theorem anchored_bind {x : Outcome (Quantity α)} {f : Quantity α → Outcome (Quantity α)}
    (hx : ∀ {a}, x = .ok a → a.Anchored reg) (hf : ∀ a, f a = .ok q → a.OffsetFrom q)
    (h : x >>= f = .ok q) : q.Anchored reg := by
  obtain ⟨a, ha, h⟩ := Outcome.bind_ok.mp h
  exact (hf a h).anchored (hx ha)

open Quantity

/-- Operands that are anchored have results that are. -/
theorem anchored_run (h : ∀ i, (value i).Anchored reg) (t : Computation ι)
    (hq : t.run value = .ok q) : q.Anchored reg := by
  induction t generalizing q with
  | operand i => exact Except.ok.inj hq ▸ h i
  | add s t hs _ => exact anchored_bind hs (fun _ => offsetFrom_bind fun _ => offsetFrom_add) hq
  | subtract s t hs _ =>
    exact anchored_bind hs (fun _ => offsetFrom_bind fun _ => offsetFrom_subtract) hq
  | multiply s t hs _ =>
    exact anchored_bind hs (fun _ => offsetFrom_bind fun _ => offsetFrom_multiply) hq
  | divide s t hs _ =>
    exact anchored_bind hs (fun _ => offsetFrom_bind fun _ => offsetFrom_divide) hq
  | invert t ht => exact anchored_bind ht (fun _ => offsetFrom_invert) hq
  | power t n ht => exact anchored_bind ht (fun _ => offsetFrom_bind fun _ => offsetFrom_power) hq
  | root t n ht => exact anchored_bind ht (fun _ => offsetFrom_bind fun _ => offsetFrom_root) hq

/-- **Offsets come from units.** Let a computation start from plain numbers and from numbers of
units, each made in a registry or in an earlier state of it. Its result has no offset, or the
registry has a unit with that very offset and the dimension of the result. -/
theorem run_anchored (t : Computation ι)
    (h : ∀ i, ∃ earlier, Registry.Reaches earlier reg ∧ (value i).Given earlier)
    (hq : t.run value = .ok q) :
    q.offset = 0 ∨ ∃ s e, (s, e) ∈ reg.units ∧ e.offset = q.offset ∧ e.dimension = q.dimension := by
  refine anchored_run (fun i => ?_) t hq
  obtain ⟨earlier, hreaches, hgiven⟩ := h i
  exact hgiven.anchored.reaches hreaches

/-- A reading on a scale of one's own, less a number of degrees that was made before the scale was
known. -/
theorem run_anchored_mark :
    let calls : List Registry.Call := [.define (.text "mark") (.real 0.8) (.text "deltaC")
      (.real 316.4375)]
    let reg := calls.foldl Registry.after .standard
    let value (b : Bool) : Quantity Float :=
      if b then ⟨.scalar (70 * 0.8), .base .temperature, 316.4375 * 0.8⟩
      else .plain (.array [4, 5]) (.base .temperature)
    let t : Computation Bool := root (subtract (operand true) (operand false)) (.ok 1)
    (∀ b, ∃ earlier, Registry.Reaches earlier reg ∧ (value b).Given earlier) ∧
      ∃ q, t.run value = .ok q ∧ q.hasOffset = true ∧ (q.offset = 0 ∨
        ∃ s e, (s, e) ∈ reg.units ∧ e.offset = q.offset ∧ e.dimension = q.dimension) := by
  intro calls reg value t
  have hmark : ∃ q, reg.quantity (.ok (.scalar 70)) "mark" = .ok q ∧ q = value true := by
    decide +kernel
  have hdegrees : ∃ q, Registry.standard.quantity (.ok (.array [4, 5])) "deltaC" = .ok q ∧
      q = value false := by decide +kernel
  have hrun : ∃ q, t.run value = .ok q ∧ q.hasOffset = true := by decide +kernel
  have hgiven : ∀ b, ∃ earlier, Registry.Reaches earlier reg ∧ (value b).Given earlier := by
    intro b
    cases b with
    | true =>
      obtain ⟨q, hq, heq⟩ := hmark
      exact ⟨reg, .refl, heq ▸ .units hq⟩
    | false =>
      obtain ⟨q, hq, heq⟩ := hdegrees
      exact ⟨.standard, Registry.reaches_run calls .standard, heq ▸ .units hq⟩
  obtain ⟨q, hq, hoffset⟩ := hrun
  exact ⟨hgiven, q, hq, hoffset, run_anchored t hgiven hq⟩

end Computation

end Quantities
