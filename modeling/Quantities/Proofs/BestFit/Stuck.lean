import Mathlib.Algebra.Group.Subgroup.Lattice
import Quantities.Proofs.BestFit.Systems

/-!
# When the units do not suffice

The search fails for dimensions that are no combination of the units, as it must. It fails for others
too, since it never takes a step that leaves as much as there was: a metre is `m^3 / m^2`, but with
the units `m^2` and `m^3` alone no first step leaves less than the metre.

* `IsCombination`: a dimension is a product of integer powers of units. These dimensions are a
  subgroup (`isCombination_iff_mem_closure`), and rounds neither leave it nor lead into it
  (`Rounds.isCombination_iff`).
* `Stuck`: something is left, and no step leaves less. `one_or_round_or_stuck` says that the search
  goes on unless it is done or stuck, and `search?_eq_none_iff` that it fails exactly when its rounds
  lead to where it is stuck.
* `Spans.not_stuck`: units that have all base dimensions they use among them never get stuck at a
  combination.

Main result:
* **`decompose_error`**: against a registry in which all unit strings are known, the search fails
  exactly when it gets stuck, and if the dimension can be shown the failure says that the units do not
  suffice. It always fails where the dimension is no combination of the units; it does so nowhere
  else exactly if it is stuck at no combination, as with the units of the three systems.
  `decompose_square_cubic` is a list with which it is.
-/

namespace Quantities

namespace BestFit

variable {cs : List Candidate} {d : Dimension} {ps : List (String × Int)}
  {D : String → Dimension} {units : List String} {n : Nat}
  {x y : Dimension × List (String × Int)}

/-! ## Combinations of units -/

/-- The dimension is a product of integer powers of units, where `D` gives the dimensions of the
units. -/
def IsCombination (D : String → Dimension) (units : List String) (d : Dimension) : Prop :=
  ∃ powers : List (String × Int), (∀ c ∈ powers, c.1 ∈ units) ∧
    (powers.map fun c => D c.1 ^ c.2).prod = d

theorem mem_closure {u : String} (hu : u ∈ units) :
    D u ∈ Subgroup.closure (D '' {u | u ∈ units}) :=
  Subgroup.subset_closure (Set.mem_image_of_mem D hu)

/-- The combinations are the subgroup that the dimensions of the units generate. -/
theorem isCombination_iff_mem_closure :
    IsCombination D units d ↔ d ∈ Subgroup.closure (D '' {u | u ∈ units}) := by
  constructor
  · rintro ⟨powers, hmem, rfl⟩
    refine list_prod_mem fun e he => ?_
    obtain ⟨c, hc, rfl⟩ := List.mem_map.mp he
    exact zpow_mem (mem_closure (hmem c hc)) c.2
  · intro h
    induction h using Subgroup.closure_induction with
    | mem e he =>
      obtain ⟨u, hu, rfl⟩ := he
      exact ⟨[(u, 1)], List.forall_mem_singleton.mpr hu, by simp⟩
    | one => exact ⟨[], nofun, rfl⟩
    | mul d e _ _ hd he =>
      obtain ⟨ps, hps, rfl⟩ := hd
      obtain ⟨qs, hqs, rfl⟩ := he
      exact ⟨ps ++ qs, List.forall_mem_append.mpr ⟨hps, hqs⟩, by simp⟩
    | inv d _ hd =>
      obtain ⟨ps, hps, rfl⟩ := hd
      refine ⟨ps.map fun c => (c.1, -c.2), List.forall_mem_map.mpr hps, ?_⟩
      rw [List.prod_inv, List.map_map, List.map_map]
      simp only [Function.comp_def, zpow_neg]

/-- A round neither leaves the combinations of the units nor leads into them. -/
theorem Round.isCombination_iff (h : Round (units.map fun u => (u, D u)) x y) :
    IsCombination D units y.1 ↔ IsCombination D units x.1 := by
  cases h with
  | @take d _ s best _ =>
    obtain ⟨⟨c, hc, -, -, hrest⟩, -⟩ := best?_spec best
    obtain ⟨u, hu, rfl⟩ := List.mem_map.mp hc
    have hstep : (D u ^ s.sign)⁻¹ ∈ Subgroup.closure (D '' {u | u ∈ units}) :=
      inv_mem (zpow_mem (mem_closure hu) s.sign)
    simp only [isCombination_iff_mem_closure, hrest, div_eq_mul_inv]
    exact mul_mem_cancel_right hstep

/-- Nor does any number of rounds. -/
theorem Rounds.isCombination_iff (h : Rounds (units.map fun u => (u, D u)) n x y) :
    IsCombination D units y.1 ↔ IsCombination D units x.1 :=
  h.keep (P := fun z => IsCombination D units z.1 ↔ IsCombination D units x.1)
    (fun _ _ hr ih => hr.isCombination_iff.trans ih) Iff.rfl

/-! ## Where the search is stuck -/

/-- Something is left, and no candidate and no reciprocal of a candidate leaves less. -/
def Stuck (cs : List Candidate) (d : Dimension) : Prop :=
  d ≠ 1 ∧ ∀ c ∈ cs, ∀ g ∈ ([-1, 1] : List Int), d.dimensionality ≤ (d / c.2 ^ g).dimensionality

instance : Decidable (Stuck cs d) := inferInstanceAs (Decidable (_ ∧ _))

/-- Where the search is stuck it takes no step. -/
theorem Stuck.not_round (h : Stuck cs d) : ¬ Round cs (d, ps) y := by
  rintro ⟨best, less⟩
  obtain ⟨⟨c, hc, -, hsign, hrest⟩, -⟩ := best?_spec best
  rw [hrest] at less
  exact (h.2 c hc _ (by simpa using hsign)).not_gt less

/-- **The search goes on unless it is done or stuck.** -/
theorem one_or_round_or_stuck (cs : List Candidate) (d : Dimension) (ps : List (String × Int)) :
    d = 1 ∨ (∃ y, Round cs (d, ps) y) ∨ Stuck cs d := by
  by_cases hd : d = 1
  · exact Or.inl hd
  by_cases hless : ∃ s, best? cs d = some s ∧ s.rest.dimensionality < d.dimensionality
  · obtain ⟨s, best, less⟩ := hless
    exact Or.inr (Or.inl ⟨_, .take best less⟩)
  refine Or.inr (Or.inr ⟨hd, fun c hc g hg => ?_⟩)
  obtain ⟨s, best⟩ := exists_best? (d := d) hc
  exact (not_lt.mp fun less => hless ⟨s, best, less⟩).trans
    ((best?_spec best).2 c hc g (by simpa using hg))

/-- Rounds come to an end: they lead to the dimension of pure numbers, or to where the search is
stuck. -/
theorem exists_rounds (cs : List Candidate) (d : Dimension) (ps : List (String × Int)) :
    ∃ n x, Rounds cs n (d, ps) x ∧ (x.1 = 1 ∨ Stuck cs x.1) := by
  induction hm : d.dimensionality using Nat.strong_induction_on generalizing d ps with
  | _ m ih =>
    subst hm
    rcases one_or_round_or_stuck cs d ps with hone | ⟨y, hround⟩ | hstuck
    · exact ⟨0, (d, ps), .refl _, Or.inl hone⟩
    · cases hround with
      | take best less =>
        obtain ⟨n, x, hrounds, hx⟩ := ih _ less _ _ rfl
        exact ⟨n + 1, x, .head (.take best less) hrounds, hx⟩
    · exact ⟨0, (d, ps), .refl _, Or.inr hstuck⟩

/-- Runs from one start that cannot go on end at the same place, as no round leaves a choice. -/
theorem Rounds.unique {m : Nat} {z : Dimension × List (String × Int)} (h : Rounds cs n x y)
    (hy : ∀ w, ¬ Round cs y w) (h' : Rounds cs m x z) (hz : ∀ w, ¬ Round cs z w) : y = z := by
  induction h generalizing m with
  | refl =>
    cases h' with
    | refl => rfl
    | head first _ => exact absurd first (hy _)
  | head first _ ih =>
    cases h' with
    | refl => exact absurd first (hz _)
    | head first' rest' =>
      obtain ⟨best, less⟩ := first
      obtain ⟨best', less'⟩ := first'
      obtain rfl := Option.some.inj (best.symm.trans best')
      exact ih hy rest'

theorem not_round_one : ¬ Round cs (1, ps) y := by
  rintro ⟨_, less⟩
  rw [Dimension.dimensionality_one] at less
  exact Nat.not_lt_zero _ less

/-- **The search fails exactly when it gets stuck.** -/
theorem search?_eq_none_iff :
    search? cs d ps = none ↔ ∃ n x, Rounds cs n (d, ps) x ∧ Stuck cs x.1 := by
  constructor
  · intro h
    obtain ⟨n, ⟨e, qs⟩, hrounds, hone | hstuck⟩ := exists_rounds cs d ps
    · obtain rfl := hone
      have := search?_eq_some_iff.mpr ⟨n, hrounds⟩
      exact nomatch h.symm.trans this
    · exact ⟨n, _, hrounds, hstuck⟩
  · rintro ⟨n, x, hrounds, hstuck⟩
    by_contra hfound
    obtain ⟨r, hr⟩ := Option.ne_none_iff_exists'.mp hfound
    obtain ⟨m, hrounds'⟩ := search?_eq_some_iff.mp hr
    obtain rfl := hrounds.unique (fun _ => hstuck.not_round) hrounds' fun _ => not_round_one
    exact hstuck.1 rfl

theorem powersOf?_eq_none_iff :
    powersOf? cs d = none ↔ ∃ n x, Rounds cs n (d, []) x ∧ Stuck cs x.1 := by
  rw [powersOf?, Option.map_eq_none_iff, search?_eq_none_iff]

/-! ## Combinations and the search -/

/-- What the search finds powers for is a combination. -/
theorem isCombination_of_powersOf? {r : List (String × Int)}
    (h : powersOf? (units.map fun u => (u, D u)) d = some r) : IsCombination D units d :=
  ⟨r, (powersOf?_exact h).mem, (powersOf?_exact h).prod⟩

/-- **The search fails for no combination** exactly if it is stuck at none. -/
theorem powersOf?_complete_iff :
    (∀ d, powersOf? (units.map fun u => (u, D u)) d = none → ¬ IsCombination D units d) ↔
      ∀ d, IsCombination D units d → ¬ Stuck (units.map fun u => (u, D u)) d := by
  constructor
  · intro h d hd hstuck
    exact h d (powersOf?_eq_none_iff.mpr ⟨0, (d, []), .refl _, hstuck⟩) hd
  · intro h d hnone hd
    obtain ⟨n, x, hrounds, hstuck⟩ := powersOf?_eq_none_iff.mp hnone
    exact h x.1 (hrounds.isCombination_iff.mpr hd) hstuck

/-- With units that have all base dimensions they use among them, the search is stuck at no
combination. -/
theorem Spans.not_stuck {span : BaseDimension → Bool}
    (h : Spans (units.map fun u => (u, D u)) span) (hd : IsCombination D units d) :
    ¬ Stuck (units.map fun u => (u, D u)) d := by
  rintro ⟨hne, hstuck⟩
  obtain ⟨powers, hmem, rfl⟩ := hd
  obtain ⟨c, hc, g, hg, hless⟩ := h.exists_less (fun b hb => h.exponent_prod hmem hb)
    fun h0 => hne (Dimension.dimensionality_eq_zero_iff.mp h0)
  exact (hstuck c hc g (by simpa using hg)).not_gt hless

end BestFit

/-! ## Against a registry -/

namespace Registry

open BestFit

variable {α : Type} [Scalar α] {reg : Registry α} {D : String → Dimension} {units : List String}
  {d : Dimension}

/-- The only failure is that the units do not suffice, or that this cannot be said. -/
theorem decompose_error_iff {f : Failure}
    (h : ∀ u ∈ units, ∃ q, reg.parse u = .ok q ∧ q.dimension = D u) :
    reg.decompose d units = .error f ↔
      f = .showing d.toList (.insufficientUnits d.text (units.map some)) ∧
        powersOf? (units.map fun u => (u, D u)) d = none := by
  rw [decompose_eq d h]
  cases powersOf? (units.map fun u => (u, D u)) d <;> simp [eq_comm]

theorem exists_decompose_error_iff
    (h : ∀ u ∈ units, ∃ q, reg.parse u = .ok q ∧ q.dimension = D u) :
    (∃ f, reg.decompose d units = .error f) ↔
      powersOf? (units.map fun u => (u, D u)) d = none := by
  simp only [decompose_error_iff h, exists_and_right, exists_eq, true_and]

/-- **When the units do not suffice.** Let all unit strings of a list be known to a registry, with
dimensions `D`. A search for a dimension fails exactly when its rounds lead to a remainder where it
is stuck, and that is a combination of the units if and only if the dimension is one. For a dimension
that can be shown the failure is that the units do not suffice. So the search fails for all dimensions
that are no combinations. It fails for no combination exactly if it is stuck at none, and so with
units that have all base dimensions they use among them. -/
theorem decompose_error (reg : Registry α) (units : List String) (D : String → Dimension)
    (h : ∀ u ∈ units, ∃ q, reg.parse u = .ok q ∧ q.dimension = D u) :
    let cs := units.map fun u => (u, D u)
    let Fails := fun d => ∃ f, reg.decompose d units = .error f
    (∀ d, Fails d ↔ ∃ n x, Rounds cs n (d, []) x ∧ Stuck cs x.1) ∧
    (∀ d f, reg.decompose d units = .error f → d.isWritable = true →
      f = .insufficientUnits d.text (units.map some)) ∧
    (∀ d n x, Rounds cs n (d, []) x → (IsCombination D units x.1 ↔ IsCombination D units d)) ∧
    (∀ d, ¬ IsCombination D units d → Fails d) ∧
    ((∀ d, Fails d → ¬ IsCombination D units d) ↔ ∀ d, IsCombination D units d → ¬ Stuck cs d) ∧
    ∀ span, Spans cs span → ∀ d, Fails d ↔ ¬ IsCombination D units d := by
  intro cs Fails
  have hfails : ∀ d, Fails d ↔ powersOf? cs d = none := fun d => exists_decompose_error_iff h
  have hnone : ∀ d, ¬ IsCombination D units d → Fails d := fun d hd => by
    rw [hfails, Option.eq_none_iff_forall_ne_some]
    exact fun r hr => hd (isCombination_of_powersOf? hr)
  have hcomplete : (∀ d, Fails d → ¬ IsCombination D units d) ↔
      ∀ d, IsCombination D units d → ¬ Stuck cs d := by
    simp only [hfails]
    exact powersOf?_complete_iff
  refine ⟨fun d => (hfails d).trans powersOf?_eq_none_iff, fun d f hf hshown => ?_,
    fun d n x hrounds => hrounds.isCombination_iff, hnone, hcomplete,
    fun span hspan d => ⟨hcomplete.mpr (fun e he => hspan.not_stuck he) d, hnone d⟩⟩
  rw [((decompose_error_iff h).mp hf).1, Failure.showing_of_isWritable hshown]

theorem decompose_error_us :
    let reg : Registry Float := .standard
    let units := UnitSystem.us.units
    let cs := units.map fun u => (u, reg.dimensionOf u)
    let d := Dimension.base .current
    let f := Failure.insufficientUnits "[I^1]" (units.map some)
    (∀ u ∈ units, ∃ q, reg.parse u = .ok q ∧ q.dimension = reg.dimensionOf u) ∧
    (Spans cs UnitSystem.us.spans ∧
      ∀ d, (∃ f, reg.decompose d units = .error f) ↔ ¬ IsCombination reg.dimensionOf units d) ∧
    reg.decompose d units = .error f ∧ d.isWritable = true ∧
      f = .insufficientUnits d.text (units.map some) := by
  intro reg units cs d f
  have hknown : ∀ u ∈ units, ∃ q, reg.parse u = .ok q ∧ q.dimension = reg.dimensionOf u :=
    fun u hu => by
      obtain ⟨q, hq, -⟩ := UnitSystem.us.units_parse u (List.mem_cons_of_mem "1" hu)
      exact ⟨q, hq, (dimensionOf_of_parse hq).symm⟩
  have hspans : Spans cs UnitSystem.us.spans := UnitSystem.spans_of_grows (.refl reg)
  have hcurrent : reg.decompose d units = .error f := by decide +kernel
  have hshown : d.isWritable = true := by decide +kernel
  obtain ⟨-, hsays, -, -, -, hspan⟩ := decompose_error reg units reg.dimensionOf hknown
  exact ⟨hknown, ⟨hspans, hspan _ hspans⟩, hcurrent, hshown, hsays d _ hcurrent hshown⟩

/-- Of square and cubic metres the search makes no metres, although their quotient is one. -/
theorem decompose_square_cubic :
    let reg : Registry Float := .standard
    let units := ["m^2", "m^3"]
    let d := Dimension.base .length
    (∀ u ∈ units, ∃ q, reg.parse u = .ok q ∧ q.dimension = reg.dimensionOf u) ∧
      reg.decompose d units = .error (.insufficientUnits d.text (units.map some)) ∧
      IsCombination reg.dimensionOf units d := by
  intro reg units d
  have hknown : ∀ u ∈ units, ∃ q, reg.parse u = .ok q ∧ q.dimension = reg.dimensionOf u := by
    decide +kernel
  have hstuck : Stuck (units.map fun u => (u, reg.dimensionOf u)) d := by decide +kernel
  have hshown : d.isWritable = true := by decide +kernel
  refine ⟨hknown, ?_, [("m^3", 1), ("m^2", -1)], by decide, by decide +kernel⟩
  rw [decompose_error_iff hknown, Failure.showing_of_isWritable hshown]
  exact ⟨rfl, powersOf?_eq_none_iff.mpr ⟨0, (d, []), .refl _, hstuck⟩⟩

end Registry

end Quantities
