import Mathlib.Algebra.BigOperators.Group.List.Basic
import Quantities.Proofs.Dimension.Writable
import Quantities.Proofs.Outcome
import Quantities.Unit.BestFit
import Quantities.Unit.Standard

/-!
# The search for a best fit

The search runs in rounds. A round takes the best step, if that leaves less than there was, and
enters the unit of the step into the powers. `Round` is one round and `Rounds` a number of them;
the search itself is shown to be a run of rounds that ends at the dimension of pure numbers.

* `best?_eq_some_iff`: the best step is the first of the best ones (`IsBest`). So it is one of the
  steps, and no step leaves less (`best?_spec`).
* `Round` keeps three things: the dimension that is asked for, as the product of what was found and
  what is left (`Round.prod_mul`); the budget, as dimensionality left and powers spent
  (`Round.budget`); and the names, which are candidates of other dimensions than `1`, each once
  (`Round.nodup`, `Round.mem`, `Round.ne_one`).
* `Rounds.dimensionality_add_le`: there are never more rounds than the dimensionality of what is
  asked for, so every search ends.
* `search?_eq_some_iff`: the search finds powers exactly when the rounds lead to `1` with them.
* `refusalKind`: the kind of the failure where there are no powers. The failure shows the dimension,
  so it is that the units do not suffice only where the dimension can be written.

Main result:
* **`decompose_exact`**: the powers found are exact. Against a registry in which all unit strings
  are known, `decompose` answers with powers of these units whose product has the dimension, none
  of them zero and no unit twice, no more in all than the dimensionality; or it fails because the
  units do not suffice, and never for the dimension of pure numbers. With an exponent that is too
  long to be shown the failure is another one (`decompose_long_exponent`).
-/

namespace Quantities

namespace BestFit

variable {cs : List Candidate} {d : Dimension} {ps : List (String × Int)}

/-! ## The best step -/

theorem mem_stepsOf {c : Candidate} {s : Step} (h : s ∈ stepsOf d c) :
    s.unit = c.1 ∧ (s.sign = -1 ∨ s.sign = 1) ∧ s.rest = d / c.2 ^ s.sign := by
  simp only [stepsOf, List.mem_cons, List.not_mem_nil, or_false] at h
  rcases h with rfl | rfl
  · exact ⟨rfl, Or.inl rfl, rfl⟩
  · exact ⟨rfl, Or.inr rfl, rfl⟩

/-- The first of the best of some steps: no step leaves less, and none before it as little. -/
structure IsBest (ss : List Step) (s : Step) : Prop where
  least : ∀ t ∈ ss, s.rest.dimensionality ≤ t.rest.dimensionality
  first : ss.find? (fun t => t.rest.dimensionality ≤ s.rest.dimensionality) = some s

variable {ss before after : List Step} {s t : Step}

theorem IsBest.mem (h : IsBest ss s) : s ∈ ss := List.mem_of_find?_eq_some h.first

/-- There is only one such step. -/
theorem IsBest.unique (hs : IsBest ss s) (ht : IsBest ss t) : s = t := by
  have heq : s.rest.dimensionality = t.rest.dimensionality :=
    (hs.least t ht.mem).antisymm (ht.least s hs.mem)
  exact Option.some.inj (hs.first.symm.trans (heq ▸ ht.first))

/-- A step that leaves more, or no less than some step before it, makes no difference. -/
theorem IsBest.insert (h : IsBest (before ++ after) s)
    (ht : s.rest.dimensionality < t.rest.dimensionality ∨
      ∃ u ∈ before, u.rest.dimensionality ≤ t.rest.dimensionality) :
    IsBest (before ++ t :: after) s := by
  obtain ⟨hleast, hfirst⟩ := h
  obtain ⟨hbefore, hafter⟩ := List.forall_mem_append.mp hleast
  have hle : s.rest.dimensionality ≤ t.rest.dimensionality := by
    rcases ht with hlt | ⟨u, hu, hut⟩
    · exact hlt.le
    · exact (hbefore u hu).trans hut
  refine ⟨List.forall_mem_append.mpr ⟨hbefore, List.forall_mem_cons.mpr ⟨hle, hafter⟩⟩, ?_⟩
  rw [List.find?_append] at hfirst ⊢
  cases hfind : before.find? (fun t => t.rest.dimensionality ≤ s.rest.dimensionality) with
  | some u => rwa [hfind] at hfirst
  | none =>
    -- Then all steps before leave more than `s`, and the new one does so in either case.
    rw [hfind] at hfirst
    have hlt : s.rest.dimensionality < t.rest.dimensionality := by
      rcases ht with hlt | ⟨u, hu, hut⟩
      · exact hlt
      · exact (by simpa using List.find?_eq_none.mp hfind u hu : _ < _).trans_le hut
    rwa [List.find?_cons_of_neg (by simpa using hlt)]

/-- Keeping the better of two steps all along a list leads to the first of the best ones. -/
theorem isBest_foldl : ∀ (ss : List Step) (s : Step), IsBest (s :: ss) (ss.foldl better s)
  | [], s => ⟨by simp, by simp⟩
  | t :: ss, s => by
    rw [List.foldl_cons]
    have ih := isBest_foldl ss (better s t)
    unfold better at ih ⊢
    split at ih
    · rename_i hlt
      rw [if_pos hlt]
      have hless := (ih.least t List.mem_cons_self).trans_lt hlt
      exact (show IsBest ([] ++ t :: ss) _ from ih).insert (Or.inl hless)
    · rename_i hle
      rw [if_neg hle]
      have hno : ∃ u ∈ [s], u.rest.dimensionality ≤ t.rest.dimensionality :=
        ⟨s, List.mem_cons_self, not_lt.mp hle⟩
      exact (show IsBest ([s] ++ ss) _ from ih).insert (Or.inr hno)

/-- **The best step is the first of the best ones.** -/
theorem best?_eq_some_iff : best? cs d = some s ↔ IsBest (cs.flatMap (stepsOf d)) s := by
  unfold best?
  split
  · rename_i hnil
    rw [hnil]
    constructor
    · intro h
      exact nomatch h
    · intro h
      exact nomatch h.mem
  · rename_i t ts hts
    rw [hts, Option.some_inj]
    constructor
    · rintro rfl
      exact isBest_foldl ts t
    · intro h
      exact (isBest_foldl ts t).unique h

/-- The best step takes one candidate to the power −1 or 1, and no candidate leaves less. -/
theorem best?_spec (h : best? cs d = some s) :
    (∃ c ∈ cs, s.unit = c.1 ∧ (s.sign = -1 ∨ s.sign = 1) ∧ s.rest = d / c.2 ^ s.sign) ∧
      ∀ c ∈ cs, ∀ g : Int, g = -1 ∨ g = 1 →
        s.rest.dimensionality ≤ (d / c.2 ^ g).dimensionality := by
  have hbest := best?_eq_some_iff.mp h
  constructor
  · obtain ⟨c, hc, hs⟩ := List.mem_flatMap.mp hbest.mem
    exact ⟨c, hc, mem_stepsOf hs⟩
  · intro c hc g hg
    refine hbest.least ⟨c.1, g, d / c.2 ^ g⟩ (List.mem_flatMap.mpr ⟨c, hc, ?_⟩)
    rcases hg with rfl | rfl <;> simp [stepsOf]

/-- Where there is a candidate there is a best step. -/
theorem exists_best? {c : Candidate} (hc : c ∈ cs) : ∃ s, best? cs d = some s := by
  unfold best?
  split
  · rename_i h
    have := List.flatMap_eq_nil_iff.mp h c hc
    simp [stepsOf] at this
  · exact ⟨_, rfl⟩

/-! ## Entering a power -/

theorem keys_addPower (u : String) (n : Int) :
    ∀ ps : List (String × Int), (addPower u n ps).map Prod.fst =
      if u ∈ ps.map Prod.fst then ps.map Prod.fst else ps.map Prod.fst ++ [u]
  | [] => by simp [addPower]
  | (v, p) :: ps => by
    by_cases h : v = u
    · simp [addPower, h]
    · have h' : ¬ u = v := fun e => h e.symm
      by_cases hm : u ∈ ps.map Prod.fst <;>
        simp only [addPower, if_neg h, List.map_cons, keys_addPower u n ps, List.mem_cons, h', hm,
          if_true, if_false, or_true, or_false, List.cons_append]

theorem mem_keys_addPower {u v : String} {n : Int} :
    v ∈ (addPower u n ps).map Prod.fst ↔ v = u ∨ v ∈ ps.map Prod.fst := by
  rw [keys_addPower]
  split
  · rename_i h
    refine ⟨Or.inr, fun hv => hv.elim (fun e => e ▸ h) id⟩
  · rw [List.mem_append, List.mem_singleton, or_comm]

theorem nodup_addPower {u : String} {n : Int} (h : (ps.map Prod.fst).Nodup) :
    ((addPower u n ps).map Prod.fst).Nodup := by
  rw [keys_addPower]
  split
  · exact h
  · rename_i hu
    refine List.nodup_append.mpr ⟨h, List.pairwise_singleton _ u, fun a ha b hb e => ?_⟩
    rw [List.mem_singleton.mp hb] at e
    exact hu (e ▸ ha)

/-- The product gains one factor. -/
theorem prod_addPower (D : String → Dimension) (u : String) (n : Int) :
    ∀ ps : List (String × Int), ((addPower u n ps).map fun c => D c.1 ^ c.2).prod =
      (ps.map fun c => D c.1 ^ c.2).prod * D u ^ n
  | [] => by simp [addPower]
  | (v, p) :: ps => by
    by_cases h : v = u
    · subst h
      simp only [addPower, if_true, List.map_cons, List.prod_cons, zpow_add, mul_right_comm]
    · simp only [addPower, if_neg h, List.map_cons, List.prod_cons, prod_addPower D u n ps,
        mul_assoc]

theorem sum_addPower_le (u : String) (n : Int) :
    ∀ ps : List (String × Int), ((addPower u n ps).map fun c => c.2.natAbs).sum ≤
      (ps.map fun c => c.2.natAbs).sum + n.natAbs
  | [] => by simp [addPower]
  | (v, p) :: ps => by
    by_cases h : v = u
    · simp only [addPower, if_pos h, List.map_cons, List.sum_cons]
      have := Int.natAbs_add_le p n
      omega
    · simp only [addPower, if_neg h, List.map_cons, List.sum_cons]
      have := sum_addPower_le u n ps
      omega

/-! ## Rounds -/

/-- One round: the best step is taken, if it leaves less than there was. -/
inductive Round (cs : List Candidate) :
    Dimension × List (String × Int) → Dimension × List (String × Int) → Prop
  | take {d : Dimension} {ps : List (String × Int)} {s : Step} (best : best? cs d = some s)
      (less : s.rest.dimensionality < d.dimensionality) :
      Round cs (d, ps) (s.rest, addPower s.unit s.sign ps)

/-- A number of rounds, one after the other. -/
inductive Rounds (cs : List Candidate) :
    Nat → Dimension × List (String × Int) → Dimension × List (String × Int) → Prop
  | refl (x : Dimension × List (String × Int)) : Rounds cs 0 x x
  | head {n : Nat} {x y z : Dimension × List (String × Int)} (first : Round cs x y)
      (rest : Rounds cs n y z) : Rounds cs (n + 1) x z

variable {x y : Dimension × List (String × Int)} {n : Nat}

/-- **Rounds are bounded.** What is left and the number of rounds are no more than there was. -/
theorem Rounds.dimensionality_add_le (h : Rounds cs n x y) :
    y.1.dimensionality + n ≤ x.1.dimensionality := by
  induction h with
  | refl => exact le_rfl
  | head first _ ih =>
    cases first with
    | take _ less => simp only at ih ⊢; omega

/-- The product of what was found and what is left stays the same. -/
theorem Round.prod_mul {D : String → Dimension} (hD : ∀ c ∈ cs, c.2 = D c.1) (h : Round cs x y) :
    (y.2.map fun c => D c.1 ^ c.2).prod * y.1 = (x.2.map fun c => D c.1 ^ c.2).prod * x.1 := by
  cases h with
  | take best _ =>
    obtain ⟨⟨c, hc, hunit, -, hrest⟩, -⟩ := best?_spec best
    rw [prod_addPower, hrest, hunit, ← hD c hc, mul_assoc, mul_div_cancel]

/-- What is left and the powers spent do not grow. -/
theorem Round.budget (h : Round cs x y) :
    (y.2.map fun c => c.2.natAbs).sum + y.1.dimensionality ≤
      (x.2.map fun c => c.2.natAbs).sum + x.1.dimensionality := by
  cases h with
  | @take _ ps s best less =>
    obtain ⟨⟨_, _, _, hsign, _⟩, -⟩ := best?_spec best
    have hone : s.sign.natAbs = 1 := by rcases hsign with h | h <;> rw [h] <;> rfl
    have := sum_addPower_le s.unit s.sign ps
    simp only
    omega

/-- Every unit is entered once. -/
theorem Round.nodup (h : Round cs x y) (hx : (x.2.map Prod.fst).Nodup) :
    (y.2.map Prod.fst).Nodup := by
  cases h with
  | take _ _ => exact nodup_addPower hx

/-- The units entered are candidates. -/
theorem Round.mem (h : Round cs x y) (hx : ∀ u ∈ x.2.map Prod.fst, u ∈ cs.map Prod.fst) :
    ∀ u ∈ y.2.map Prod.fst, u ∈ cs.map Prod.fst := by
  cases h with
  | take best _ =>
    obtain ⟨⟨c, hc, hunit, -, -⟩, -⟩ := best?_spec best
    intro u hu
    rcases mem_keys_addPower.mp hu with rfl | hu
    · rw [hunit]; exact List.mem_map_of_mem hc
    · exact hx u hu

/-- A unit of the dimension `1` is never entered, as it leaves all there was. -/
theorem Round.ne_one {D : String → Dimension} (hD : ∀ c ∈ cs, c.2 = D c.1) (h : Round cs x y)
    (hx : ∀ u ∈ x.2.map Prod.fst, D u ≠ 1) : ∀ u ∈ y.2.map Prod.fst, D u ≠ 1 := by
  cases h with
  | take best less =>
    obtain ⟨⟨c, hc, hunit, -, hrest⟩, -⟩ := best?_spec best
    intro u hu
    rcases mem_keys_addPower.mp hu with rfl | hu
    · intro hone
      rw [hrest, hD c hc, ← hunit, hone, one_zpow, div_one] at less
      exact lt_irrefl _ less
    · exact hx u hu

/-- What every round keeps holds after a run. -/
theorem Rounds.keep {P : Dimension × List (String × Int) → Prop}
    (step : ∀ x y, Round cs x y → P x → P y) (h : Rounds cs n x y) (hx : P x) : P y := by
  induction h with
  | refl => exact hx
  | head first _ ih => exact ih (step _ _ first hx)

/-- **The search is a run of rounds.** It finds powers exactly when rounds lead from what is asked
for to the dimension of pure numbers with these powers. -/
theorem search?_eq_some_iff {r : List (String × Int)} :
    search? cs d ps = some r ↔ ∃ n, Rounds cs n (d, ps) (1, r) := by
  constructor
  · intro h
    fun_induction search? cs d ps with
    | case1 d ps h0 =>
      obtain rfl := Dimension.dimensionality_eq_zero_iff.mp h0
      obtain rfl := Option.some.inj h
      exact ⟨0, .refl _⟩
    | case2 | case4 => exact absurd h (by simp)
    | case3 d ps _ s best less ih =>
      obtain ⟨n, hn⟩ := ih h
      exact ⟨n + 1, .head (.take best less) hn⟩
  · rintro ⟨n, h⟩
    generalize hx : (d, ps) = x at h
    generalize hy : ((1 : Dimension), r) = y at h
    induction h generalizing d ps with
    | refl =>
      obtain ⟨rfl, rfl⟩ := Prod.mk.inj (hx.trans hy.symm)
      rw [search?, if_pos Dimension.dimensionality_one]
    | head first _ ih =>
      cases first with
      | take best less =>
        obtain ⟨rfl, rfl⟩ := Prod.mk.inj hx
        rw [search?, if_neg (by omega), best]
        simp only [if_pos less]
        exact ih rfl hy

/-! ## Exact powers -/

/-- The powers of some units are exact for a dimension, where `D` gives the dimensions of the
units. -/
structure Exact (D : String → Dimension) (units : List String) (d : Dimension)
    (powers : List (String × Int)) : Prop where
  nodup : (powers.map Prod.fst).Nodup
  mem : ∀ c ∈ powers, c.1 ∈ units
  ne_zero : ∀ c ∈ powers, c.2 ≠ 0
  ne_one : ∀ c ∈ powers, D c.1 ≠ 1
  prod : (powers.map fun c => D c.1 ^ c.2).prod = d
  sum_le : (powers.map fun c => c.2.natAbs).sum ≤ d.dimensionality

/-- Units whose powers have cancelled out do not count in a product. -/
theorem prod_filter_ne_zero (D : String → Dimension) :
    ∀ ps : List (String × Int), ((ps.filter fun c => c.2 ≠ 0).map fun c => D c.1 ^ c.2).prod =
      (ps.map fun c => D c.1 ^ c.2).prod
  | [] => rfl
  | c :: ps => by
    by_cases h : c.2 = 0
    · rw [List.filter_cons_of_neg (by simp [h]), prod_filter_ne_zero D ps, List.map_cons,
        List.prod_cons, h, zpow_zero, one_mul]
    · rw [List.filter_cons_of_pos (by simp [h]), List.map_cons, List.prod_cons,
        prod_filter_ne_zero D ps, List.map_cons, List.prod_cons]

/-- **The powers found are exact.** -/
theorem powersOf?_exact {D : String → Dimension} {units : List String}
    {r : List (String × Int)} (h : powersOf? (units.map fun u => (u, D u)) d = some r) :
    Exact D units d r := by
  unfold powersOf? at h
  obtain ⟨all, hall, rfl⟩ := Option.map_eq_some_iff.mp h
  obtain ⟨n, hn⟩ := search?_eq_some_iff.mp hall
  have hD : ∀ c ∈ units.map fun u => (u, D u), c.2 = D c.1 := fun c hc => by
    obtain ⟨u, -, rfl⟩ := List.mem_map.mp hc
    rfl
  have hprod := hn.keep (P := fun x => (x.2.map fun c => D c.1 ^ c.2).prod * x.1 = d)
    (fun x y hr hx => (hr.prod_mul hD).trans hx) (by simp)
  have hsum := hn.keep
    (P := fun x => (x.2.map fun c => c.2.natAbs).sum + x.1.dimensionality ≤ d.dimensionality)
    (fun x y hr hx => hr.budget.trans hx) (by simp)
  have hmem := hn.keep
    (P := fun x => ∀ u ∈ x.2.map Prod.fst, u ∈ (units.map fun u => (u, D u)).map Prod.fst)
    (fun x y hr hx => hr.mem hx) (by simp)
  have hnodup := hn.keep (P := fun x => (x.2.map Prod.fst).Nodup)
    (fun x y hr hx => hr.nodup hx) (by simp)
  have hne := hn.keep (P := fun x => ∀ u ∈ x.2.map Prod.fst, D u ≠ 1)
    (fun x y hr hx => hr.ne_one hD hx) (by simp)
  have hsub : (all.filter fun c => c.2 ≠ 0).Sublist all := List.filter_sublist
  simp only [mul_one, Dimension.dimensionality_one, Nat.add_zero] at hprod hsum
  refine ⟨hnodup.sublist (hsub.map _), fun c hc => ?_, fun c hc => ?_, fun c hc => ?_, ?_, ?_⟩
  · have := hmem c.1 (List.mem_map_of_mem (hsub.subset hc))
    simpa using this
  · simpa using (List.mem_filter.mp hc).2
  · exact hne c.1 (List.mem_map_of_mem (hsub.subset hc))
  · rw [prod_filter_ne_zero, hprod]
  · exact ((hsub.map _).sum_le_sum fun _ _ => Nat.zero_le _).trans hsum

/-- Nothing is needed to make up the dimension of pure numbers. -/
theorem powersOf?_one (cs : List Candidate) : powersOf? cs 1 = some [] := by
  rw [powersOf?, search?, if_pos Dimension.dimensionality_one]
  rfl

end BestFit

/-! ## Against a registry -/

namespace Registry

variable {α : Type} [Scalar α] {reg : Registry α} {D : String → Dimension}

/-- Unit strings that are all known are candidates with their dimensions. -/
theorem candidates_eq : ∀ {units : List String},
    (∀ u ∈ units, ∃ q, reg.parse u = .ok q ∧ q.dimension = D u) →
      reg.candidates units = .ok (units.map fun u => (u, D u))
  | [], _ => rfl
  | u :: units, h => by
    obtain ⟨q, hq, hd⟩ := h u List.mem_cons_self
    have ih := candidates_eq fun v hv => h v (List.mem_cons_of_mem _ hv)
    unfold candidates at ih ⊢
    rw [List.mapM_cons, ih, hq, List.map_cons, ← hd]
    rfl

/-- The kind of the failure where there are no powers for a dimension: the units do not suffice, or
the dimension cannot be shown. -/
def refusalKind (d : Dimension) : Failure.Kind :=
  if d.isWritable then .insufficientUnits else .badValue

theorem refusalKind_of_isWritable {d : Dimension} (h : d.isWritable = true) :
    refusalKind d = .insufficientUnits :=
  if_pos h

@[simp] theorem refusalKind_inv (d : Dimension) : refusalKind d⁻¹ = refusalKind d := by
  rw [refusalKind, refusalKind, Dimension.isWritable_inv]

/-- What a search answers when all unit strings are known. -/
theorem decompose_eq {units : List String} (d : Dimension)
    (h : ∀ u ∈ units, ∃ q, reg.parse u = .ok q ∧ q.dimension = D u) :
    reg.decompose d units =
      match BestFit.powersOf? (units.map fun u => (u, D u)) d with
      | some powers => .ok powers
      | none => .error (.showing d.toList (.insufficientUnits d.text (units.map some))) := by
  unfold decompose
  rw [candidates_eq h]
  rfl

theorem decompose_ok {units : List String} {powers : List (String × Int)} (d : Dimension)
    (h : ∀ u ∈ units, ∃ q, reg.parse u = .ok q ∧ q.dimension = D u) :
    reg.decompose d units = .ok powers ↔
      BestFit.powersOf? (units.map fun u => (u, D u)) d = some powers := by
  rw [decompose_eq d h]
  split
  · rename_i r hr
    rw [hr, Except.ok.injEq, Option.some.injEq]
  · rename_i hr
    rw [hr]
    exact ⟨fun h => (nomatch h), fun h => (nomatch h)⟩

/-- **The search is exact and ends.** Let all unit strings of a list be known to a registry, with
dimensions `D`. A search for a dimension takes no more rounds than the dimensionality; powers that
it answers with are exact; and the only failure is that the units do not suffice, which they always
do for the dimension of pure numbers. The failure is of this kind for the dimensions that can be
shown, and for the others it is that of the attempt to show them. -/
theorem decompose_exact (reg : Registry α) (d : Dimension) (units : List String)
    (D : String → Dimension) (h : ∀ u ∈ units, ∃ q, reg.parse u = .ok q ∧ q.dimension = D u) :
    (∀ n x, BestFit.Rounds (units.map fun u => (u, D u)) n (d, []) x → n ≤ d.dimensionality) ∧
      match reg.decompose d units with
      | .ok powers => BestFit.Exact D units d powers
      | .error f => f.kind = refusalKind d ∧ d ≠ 1 := by
  refine ⟨fun n x hn => ?_, ?_⟩
  · have := hn.dimensionality_add_le
    simp only at this
    omega
  · rw [decompose_eq d h]
    cases hp : BestFit.powersOf? (units.map fun u => (u, D u)) d with
    | some powers => exact BestFit.powersOf?_exact hp
    | none =>
      refine ⟨Failure.kind_showing d _, ?_⟩
      rintro rfl
      rw [BestFit.powersOf?_one] at hp
      exact absurd hp (by simp)

theorem decompose_exact_jerk :
    let reg : Registry Float := .standard
    let d := Dimension.base .length / Dimension.base .time ^ (3 : Int)
    let units := ["m / s", "s", "ft", "s"]
    let D : String → Dimension := fun u =>
      if u = "s" then .base .time else if u = "ft" then .base .length else .velocity
    (∀ u ∈ units, ∃ q, reg.parse u = .ok q ∧ q.dimension = D u) ∧
    (∀ n x, BestFit.Rounds (units.map fun u => (u, D u)) n (d, []) x → n ≤ d.dimensionality) ∧
      match reg.decompose d units with
      | .ok powers => BestFit.Exact D units d powers
      | .error f => f.kind = refusalKind d ∧ d ≠ 1 := by
  intro reg d units D
  have hknown : ∀ u ∈ units, ∃ q, reg.parse u = .ok q ∧ q.dimension = D u := by decide +kernel
  exact ⟨hknown, decompose_exact reg d units D hknown⟩

/-- No units suffice for a mass to a power that is too long to be shown, and it is not this that the
failure says. -/
theorem decompose_long_exponent :
    let d : Dimension := { mass := ((10 ^ Number.digitLimit : Nat) : Int) }
    (Registry.standard : Registry Float).decompose d [] = .error .badValue ∧
      Failure.badValue.kind ≠ .insufficientUnits := by
  intro d
  have hmass : d.exponent .mass = ((10 ^ Number.digitLimit : Nat) : Int) := rfl
  have hlong : ¬ d.isWritable = true := fun h => by
    have := Dimension.isWritable_iff.mp h .mass
    rw [hmass, Int.natAbs_natCast] at this
    exact lt_irrefl _ this
  have hne : ¬ d.dimensionality = 0 := fun h0 => by
    have := d.natAbs_exponent_le .mass
    rw [h0, hmass, Int.natAbs_natCast, Nat.le_zero] at this
    exact pow_ne_zero _ (by decide) this
  have hnone : BestFit.powersOf? [] d = none := by
    rw [BestFit.powersOf?, BestFit.search?, if_neg hne]
    rfl
  refine ⟨?_, by decide⟩
  rw [decompose_eq (D := fun _ => 1) d (by simp), List.map_nil, hnone]
  exact congrArg Except.error (if_neg hlong)

end Registry

end Quantities
