import Quantities.Proofs.BestFit.Choice
import Quantities.Proofs.BestFit.Offset

/-!
# The best fit of a reciprocal

Asked for the inverse of a dimension, the search takes the same units with the opposite signs. The
scan itself is not symmetric, as it looks at the power −1 of a unit before the power 1; but the step
that is taken is (`Choice.lean`), since it never depends on which of the two comes first.

* `Takes.inv`, `Round.inv`: steps and rounds backwards.
* `powersOf?_inv`: the powers for the inverse of a dimension are the powers for the dimension,
  negated.
* `Reciprocal`: two unit strings have the same terms on opposite sides of the slash.
  `reciprocal_renderPowers` says that the texts of powers and of the negated powers are such.
* `Quantity.both_fit_iff`: where there are powers, a quantity and its reciprocal both have best fits
  exactly when the units used have no offset and both texts are writable. A unit with an offset can
  be a whole text, but it never stands below a slash (`decompose_inv_celsius`).

Main result:
* **`Registry.decompose_inv`**: a dimension and its inverse have powers together or not at all, and
  those of the inverse are the negated ones; the best fits of a quantity and of its reciprocal have
  reciprocal unit strings where both succeed, and it says when they do.
-/

namespace Quantities

namespace BestFit

variable {cs : List Candidate} {c : Candidate} {d : Dimension} {s : Step}
  {x y : Dimension × List (String × Int)}

/-! ## Negated powers -/

/-- Powers of the same units with the opposite signs. -/
def negated (powers : List (String × Int)) : List (String × Int) :=
  powers.map fun c => (c.1, -c.2)

@[simp] theorem negated_negated (powers : List (String × Int)) :
    negated (negated powers) = powers := by
  simp [negated, Function.comp_def]

theorem negated_addPower (u : String) (n : Int) : ∀ ps : List (String × Int),
    negated (addPower u n ps) = addPower u (-n) (negated ps)
  | [] => rfl
  | (v, p) :: ps => by
    have ih := negated_addPower u n ps
    unfold negated at ih ⊢
    by_cases h : v = u
    · simp [addPower, h, add_comm]
    · simp [addPower, h, ih]

/-- The powers that pass a test of their signs pass the opposite test when they are negated. -/
theorem filter_negated {f g : Int → Bool} (h : ∀ n, f (-n) = g n) (powers : List (String × Int)) :
    (negated powers).filter (fun c => f c.2) = negated (powers.filter fun c => g c.2) := by
  simp only [negated, List.filter_map, Function.comp_def, h]

/-! ## Backwards -/

/-- The step that takes the same unit to the opposite power, from the inverse dimension. -/
def Step.inv (s : Step) : Step := ⟨s.unit, -s.sign, s.rest⁻¹⟩

@[simp] theorem Step.inv_inv (s : Step) : s.inv.inv = s := by
  simp [Step.inv]

theorem mem_stepsOf_inv (h : s ∈ stepsOf d c) : s.inv ∈ stepsOf d⁻¹ c := by
  simp only [stepsOf_eq, List.mem_cons, List.not_mem_nil, or_false] at h ⊢
  rcases h with rfl | rfl
  · right
    simp [Step.inv, div_eq_mul_inv, mul_comm]
  · left
    simp [Step.inv, div_eq_mul_inv, mul_comm]

/-- A candidate leaves as little of the inverse as of the dimension. -/
theorem leavesAtMost_inv (d : Dimension) (n : Nat) (c : Candidate) :
    leavesAtMost d⁻¹ n c = leavesAtMost d n c := by
  have hmul : d⁻¹ * c.2 = (d / c.2)⁻¹ := by rw [inv_div, mul_comm, div_eq_mul_inv]
  have hdiv : d⁻¹ / c.2 = (d * c.2)⁻¹ := by rw [mul_inv, div_eq_mul_inv]
  rw [Bool.eq_iff_iff, leavesAtMost_iff, leavesAtMost_iff, hmul, hdiv, Dimension.dimensionality_inv,
    Dimension.dimensionality_inv, or_comm]

/-- **Steps backwards.** For the inverse of a dimension the search takes the same unit to the
opposite power, and leaves the inverse. -/
theorem Takes.inv (h : Takes cs d s) : Takes cs d⁻¹ s.inv := by
  obtain ⟨less, least, c, hc, hs⟩ := h
  refine ⟨?_, fun b hb t ht => ?_, c, ?_, mem_stepsOf_inv hs⟩
  · simpa [Step.inv] using less
  · have hback := mem_stepsOf_inv ht
    rw [inv_inv] at hback
    simpa [Step.inv] using least b hb t.inv hback
  · have hsame : leavesAtMost d⁻¹ s.inv.rest.dimensionality =
        leavesAtMost d s.rest.dimensionality := by
      rw [Step.inv, Dimension.dimensionality_inv]
      exact funext (leavesAtMost_inv d _)
    rw [hsame, hc]

theorem Round.inv (h : Round cs x y) :
    Round cs (x.map (fun d => d⁻¹) negated) (y.map (fun d => d⁻¹) negated) := by
  obtain ⟨d, ps⟩ := x
  obtain ⟨s, hs, rfl⟩ := round_iff.mp h
  refine round_iff.mpr ⟨s.inv, hs.inv, ?_⟩
  simp only [Prod.map_apply, negated_addPower, Step.inv]

/-- **The search backwards.** -/
theorem search?_inv (cs : List Candidate) (d : Dimension) (ps : List (String × Int)) :
    search? cs d⁻¹ (negated ps) = (search? cs d ps).map negated := by
  have hfound : ∀ {e : Dimension} {qs r : List (String × Int)}, search? cs e qs = some r →
      search? cs e⁻¹ (negated qs) = some (negated r) :=
    search?_map inv_one fun _ _ => Round.inv
  cases h : search? cs d ps with
  | some r => exact hfound h
  | none =>
    cases h' : search? cs d⁻¹ (negated ps) with
    | none => rfl
    | some r =>
      -- Backwards twice is forwards, so there were powers for the dimension.
      have hback := hfound h'
      rw [inv_inv, negated_negated, h] at hback
      exact nomatch hback

theorem powersOf?_inv (cs : List Candidate) (d : Dimension) :
    powersOf? cs d⁻¹ = (powersOf? cs d).map negated := by
  have hsearch : search? cs d⁻¹ [] = (search? cs d []).map negated := search?_inv cs d []
  have hsign : ∀ n : Int, decide (-n ≠ 0) = decide (n ≠ 0) := fun n => by simp
  rw [powersOf?, powersOf?, hsearch, Option.map_map, Option.map_map]
  exact congrArg (Option.map · _) (funext fun ps =>
    filter_negated (f := fun n => decide (n ≠ 0)) (g := fun n => decide (n ≠ 0)) hsign ps)

/-! ## The texts -/

/-- The powers above zero are the negated ones that were below, and the other way round. -/
theorem filter_pos_negated (powers : List (String × Int)) :
    (negated powers).filter (fun c => 0 < c.2) = negated (powers.filter fun c => c.2 < 0) :=
  filter_negated (f := fun n => decide (0 < n)) (g := fun n => decide (n < 0)) (fun n => by simp)
    powers

theorem filter_neg_negated (powers : List (String × Int)) :
    (negated powers).filter (fun c => c.2 < 0) = negated (powers.filter fun c => 0 < c.2) :=
  filter_negated (f := fun n => decide (n < 0)) (g := fun n => decide (0 < n)) (fun n => by simp)
    powers

/-- What looks at powers without their signs does not see that they are negated. -/
theorem map_negated {β : Type} (f : String → Nat → β) (powers : List (String × Int)) :
    (negated powers).map (fun c => f c.1 c.2.natAbs) = powers.map fun c => f c.1 c.2.natAbs := by
  simp [negated, Function.comp_def]

/-- Terms above and below a slash, which is left out where there are none below. -/
def quotientText (above below : List String) : String :=
  if below.isEmpty then sectionText above
  else sectionText above ++ " / " ++ " ".intercalate below

/-- Unit strings are reciprocals: they have the same terms on opposite sides of the slash. -/
def Reciprocal (s t : String) : Prop :=
  ∃ above below, s = quotientText above below ∧ t = quotientText below above

/-- **The text of negated powers** is the reciprocal of the text of the powers. -/
theorem reciprocal_renderPowers (powers : List (String × Int)) :
    Reciprocal (renderPowers powers) (renderPowers (negated powers)) := by
  refine ⟨(powers.filter fun c => 0 < c.2).map fun c => termText c.1 c.2.natAbs,
    (powers.filter fun c => c.2 < 0).map fun c => termText c.1 c.2.natAbs, rfl, ?_⟩
  rw [renderPowers, filter_pos_negated, filter_neg_negated, map_negated termText,
    map_negated termText]
  rfl

end BestFit

open BestFit

variable {α : Type} [Scalar α]

namespace Registry

variable {reg : Registry α} {units : List String} {D : String → Dimension} {d : Dimension}
  {powers : List (String × Int)}

/-! ## Both searches -/

/-- The searches for a dimension and for its inverse end alike, with opposite powers. -/
theorem endAlike_inv (d : Dimension)
    (h : ∀ u ∈ units, ∃ q, reg.parse u = .ok q ∧ q.dimension = D u) :
    EndAlike (refusalKind d) (fun powers powers' => powers' = negated powers ∧
        Reciprocal (renderPowers powers) (renderPowers powers'))
      (reg.decompose d units) (reg.decompose d⁻¹ units) :=
  endAlike_decompose h h (powersOf?_inv _ d) (refusalKind_inv d) fun powers =>
    ⟨rfl, reciprocal_renderPowers powers⟩

/-- There are powers for the inverse of a dimension when there are some for the dimension. -/
theorem decompose_negated (h : ∀ u ∈ units, ∃ q, reg.parse u = .ok q ∧ q.dimension = D u)
    (hpowers : reg.decompose d units = .ok powers) :
    reg.decompose d⁻¹ units = .ok (negated powers) := by
  rw [decompose_ok _ h] at hpowers ⊢
  rw [powersOf?_inv, hpowers, Option.map_some]

end Registry

variable {reg : Registry α} {q r : Quantity α} {units : List String}

theorem Quantity.dimension_of_invert (h : q.invert = .ok r) : r.dimension = q.dimension⁻¹ := by
  unfold Quantity.invert at h
  split at h
  · exact nomatch h
  · rw [← Except.ok.inj h]
    rfl

/-- The powers for a reciprocal. -/
theorem Registry.decompose_inverted {powers : List (String × Int)}
    (hunits : ∀ u ∈ units, ∃ v, reg.parse u = .ok v) (hinv : q.invert = .ok r)
    (hpowers : reg.decompose q.dimension units = .ok powers) :
    reg.decompose r.dimension units = .ok (negated powers) := by
  rw [Quantity.dimension_of_invert hinv]
  refine Registry.decompose_negated (D := reg.dimensionOf) (fun u hu => ?_) hpowers
  obtain ⟨v, hv⟩ := hunits u hu
  exact ⟨v, hv, (Registry.dimensionOf_of_parse hv).symm⟩

/-- Where the best fits of a quantity and of its reciprocal answer, they answer with reciprocal unit
strings. -/
theorem Quantity.reciprocal_of_fit {m m' : Magnitude α} {s s' : String}
    (hunits : ∀ u ∈ units, ∃ v, reg.parse u = .ok v) (hinv : q.invert = .ok r)
    (hs : q.fit reg units = .ok (m, s)) (hs' : r.fit reg units = .ok (m', s')) :
    Reciprocal s s' := by
  obtain ⟨powers, hpowers, -⟩ := Outcome.bind_ok.mp hs
  have hpowers' := Registry.decompose_inverted hunits hinv hpowers
  rw [Quantity.text_of_fit hpowers hs, Quantity.text_of_fit hpowers' hs']
  exact reciprocal_renderPowers powers

/-! ## Both best fits -/

variable [Scalar.Grounded α] {D : String → Dimension} {d : Dimension} {powers : List (String × Int)}

/-- Where both texts stand for something, none of the units used has an offset, since each of them
stands below the slash in one of the two. -/
theorem Registry.unshifted_of_parse {u u' : Quantity α} (exact : Exact D units d powers)
    (hunits : ∀ u ∈ units, ∃ v, reg.parse u = .ok v)
    (hu : reg.parse (renderPowers powers) = .ok u)
    (hu' : reg.parse (renderPowers (negated powers)) = .ok u') : reg.Unshifted powers := by
  intro c hc
  have hne := exact.ne_zero c hc
  have hne' : ∀ c ∈ negated powers, c.2 ≠ 0 :=
    List.forall_mem_map.mpr fun c hc => neg_ne_zero.mpr (exact.ne_zero c hc)
  have hc' : (c.1, -c.2) ∈ negated powers := List.mem_map_of_mem hc
  obtain ⟨v, hv⟩ := hunits c.1 (exact.mem c hc)
  refine ⟨v, hv, ?_⟩
  rcases lt_or_gt_of_ne hne with hneg | hpos
  · exact Registry.hasOffset_of_parse exact.ne_zero hu hc hneg hv
  · exact Registry.hasOffset_of_parse hne' hu' hc' (neg_lt_zero.mpr hpos) hv

/-- **When both best fits succeed.** Where there are powers for a quantity, it and its reciprocal both
have a best fit exactly when none of the units used has an offset and both texts are writable. -/
theorem Quantity.both_fit_iff (hone : reg.parse "1" = .ok .unity)
    (hunits : ∀ u ∈ units, ∃ v, reg.parse u = .ok v)
    (hrange : q.dimension.dimensionality ≤ 10 ^ 300) (hinv : q.invert = .ok r)
    (hpowers : reg.decompose q.dimension units = .ok powers) :
    ((∃ a, q.fit reg units = .ok a) ∧ ∃ b, r.fit reg units = .ok b) ↔
      reg.Unshifted powers ∧ reg.Writable powers q.dimension ∧
        reg.Writable (negated powers) r.dimension := by
  have hd := Quantity.dimension_of_invert hinv
  have hrange' : r.dimension.dimensionality ≤ 10 ^ 300 := by
    rwa [hd, Dimension.dimensionality_inv]
  have hpowers' := Registry.decompose_inverted hunits hinv hpowers
  have exact := Registry.exact_of_decompose hunits hpowers
  constructor
  · rintro ⟨hq, hr⟩
    obtain ⟨u, hu, -⟩ := (Quantity.fit_ok hpowers).mp hq
    obtain ⟨u', hu', -⟩ := (Quantity.fit_ok hpowers').mp hr
    have hunshifted := Registry.unshifted_of_parse exact hunits hu hu'
    have hunshifted' : reg.Unshifted (negated powers) :=
      List.forall_mem_map.mpr hunshifted
    exact ⟨hunshifted,
      (Quantity.fit_ok_iff_writable hone hunits hrange hpowers hunshifted).mp hq,
      (Quantity.fit_ok_iff_writable hone hunits hrange' hpowers' hunshifted').mp hr⟩
  · rintro ⟨hunshifted, hw, hw'⟩
    have hunshifted' : reg.Unshifted (negated powers) :=
      List.forall_mem_map.mpr hunshifted
    exact ⟨(Quantity.fit_ok_iff_writable hone hunits hrange hpowers hunshifted).mpr hw,
      (Quantity.fit_ok_iff_writable hone hunits hrange' hpowers' hunshifted').mpr hw'⟩

/-- Plain units meet these conditions. -/
theorem Quantity.both_fit_of_plain (hone : reg.parse "1" = .ok .unity)
    (hunits : ∀ u ∈ units, ∃ v, reg.parse u = .ok v)
    (hrange : q.dimension.dimensionality ≤ 10 ^ 300) (hinv : q.invert = .ok r)
    (hpowers : reg.decompose q.dimension units = .ok powers)
    (hplain : ∀ c ∈ powers, reg.Plain c.1) :
    (∃ a, q.fit reg units = .ok a) ∧ ∃ b, r.fit reg units = .ok b := by
  have hd := Quantity.dimension_of_invert hinv
  have hpowers' := Registry.decompose_inverted hunits hinv hpowers
  have hplain' : ∀ c ∈ negated powers, reg.Plain c.1 := List.forall_mem_map.mpr hplain
  refine (Quantity.both_fit_iff hone hunits hrange hinv hpowers).mpr ⟨?_, ?_, ?_⟩
  · exact fun c hc => (hplain c hc).parse
  · exact Registry.writable_of_plain (Registry.exact_of_decompose hunits hpowers) hplain
  · exact Registry.writable_of_plain (Registry.exact_of_decompose hunits hpowers') hplain'

end Quantities
