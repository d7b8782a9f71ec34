import Quantities.Proofs.BestFit.Search

/-!
# Which unit the search takes

The search takes the first of the candidates that leave least, to the power that leaves it. Between
the two powers of one candidate there is never a choice: dividing and multiplying by the same
dimension do not both bring nearer to `1`, so of the two at most one is ever taken.

* `Takes`: a step is taken, said of the list of candidates and without the scan. `takes_iff` says
  that the scan finds this step, and `round_iff` that a round takes it.
* `Dimension.Matches`: a dimension is another one or its inverse. Candidates that match leave the
  same (`leavesAtMost_congr`), so only the first of them is ever taken (`Takes.find?`).
* `Rounds.map`, `search?_map`: where the rounds with some candidates go along with the rounds with
  others, the searches find the same.
* `EndAlike`: two searches end alike, with powers or with failures of one kind.

Main results:
* **`decompose_insert`**: a candidate of the dimension `1`, and a candidate that matches one before
  it, makes no difference to the search.
* **`decompose_single`**: where a candidate matches what is asked for, the search finds one power,
  of the first candidate that does.
-/

namespace Quantities

/-! ## Up to inversion -/

/-- A dimension is another one or its inverse. -/
def Dimension.Matches (d e : Dimension) : Prop := d = e ∨ d = e⁻¹

instance (d e : Dimension) : Decidable (d.Matches e) := inferInstanceAs (Decidable (_ ∨ _))

namespace BestFit

variable {cs before after : List Candidate} {c u v : Candidate} {d : Dimension} {n : Nat}
  {s t : Step} {ps : List (String × Int)} {x y : Dimension × List (String × Int)}

/-- What the two ways to take a candidate leave. -/
theorem stepsOf_eq (d : Dimension) (c : Candidate) :
    stepsOf d c = [⟨c.1, -1, d * c.2⟩, ⟨c.1, 1, d / c.2⟩] := by
  rw [stepsOf, zpow_neg_one, div_inv_eq_mul, zpow_one]

/-- **One way at most.** Of the two ways to take a candidate only one can leave less than there
was; the other one leaves more. -/
theorem eq_of_le_of_less (hs : s ∈ stepsOf d c) (ht : t ∈ stepsOf d c)
    (less : s.rest.dimensionality < d.dimensionality)
    (hle : t.rest.dimensionality ≤ s.rest.dimensionality) : t = s := by
  have hsum := Dimension.two_mul_dimensionality_le d c.2
  simp only [stepsOf_eq, List.mem_cons, List.not_mem_nil, or_false] at hs ht
  rcases hs with rfl | rfl <;> rcases ht with rfl | rfl
  · rfl
  · simp only at less hle; omega
  · simp only at less hle; omega
  · rfl

/-- Does a candidate or its reciprocal leave at most `n`? -/
def leavesAtMost (d : Dimension) (n : Nat) (c : Candidate) : Bool :=
  (stepsOf d c).any fun s => s.rest.dimensionality ≤ n

theorem leavesAtMost_iff : leavesAtMost d n c = true ↔
    (d * c.2).dimensionality ≤ n ∨ (d / c.2).dimensionality ≤ n := by
  simp [leavesAtMost, stepsOf_eq]

theorem leavesAtMost_of_mem (hs : s ∈ stepsOf d c) (h : s.rest.dimensionality ≤ n) :
    leavesAtMost d n c = true :=
  List.any_eq_true.mpr ⟨s, hs, by simpa using h⟩

/-- Candidates that match leave the same. -/
theorem leavesAtMost_congr (h : u.2.Matches v.2) (d : Dimension) (n : Nat) :
    leavesAtMost d n u = leavesAtMost d n v := by
  rw [Bool.eq_iff_iff, leavesAtMost_iff, leavesAtMost_iff]
  rcases h with h | h
  · rw [h]
  · rw [h, ← div_eq_mul_inv, div_inv_eq_mul, or_comm]

/-- Nothing is left where a candidate matches what is asked for. -/
theorem leavesAtMost_zero_iff : leavesAtMost d 0 c = true ↔ c.2.Matches d := by
  rw [leavesAtMost_iff, Nat.le_zero, Nat.le_zero, Dimension.dimensionality_eq_zero_iff,
    Dimension.dimensionality_eq_zero_iff, mul_eq_one_iff_eq_inv', div_eq_one, or_comm, eq_comm]
  rfl

/-! ## The step that is taken -/

/-- The search takes a step: it leaves less than there was, no step leaves less than it, and it is a
step of the first candidate that leaves as little. -/
structure Takes (cs : List Candidate) (d : Dimension) (s : Step) : Prop where
  less : s.rest.dimensionality < d.dimensionality
  least : ∀ c ∈ cs, ∀ t ∈ stepsOf d c, s.rest.dimensionality ≤ t.rest.dimensionality
  first : ∃ c, cs.find? (leavesAtMost d s.rest.dimensionality) = some c ∧ s ∈ stepsOf d c

/-- A step that leaves less is the only one of its candidate that leaves so little. -/
theorem find?_stepsOf (less : s.rest.dimensionality < d.dimensionality) (c : Candidate) :
    (stepsOf d c).find? (fun t => t.rest.dimensionality ≤ s.rest.dimensionality) = some s ↔
      s ∈ stepsOf d c := by
  constructor
  · exact List.mem_of_find?_eq_some
  · intro hs
    cases hfind : (stepsOf d c).find? fun t => t.rest.dimensionality ≤ s.rest.dimensionality with
    | none => exact absurd (List.find?_eq_none.mp hfind s hs) (by simp)
    | some t =>
      have hle : t.rest.dimensionality ≤ s.rest.dimensionality := by
        simpa using List.find?_some hfind
      rw [eq_of_le_of_less hs (List.mem_of_find?_eq_some hfind) less hle]

/-- **The scan finds the step that is taken.** -/
theorem takes_iff : Takes cs d s ↔
    best? cs d = some s ∧ s.rest.dimensionality < d.dimensionality := by
  rw [best?_eq_some_iff]
  -- The scan looks for the first step, here it is the first candidate and then a step of it.
  constructor
  · rintro ⟨less, least, c, hc, hs⟩
    obtain ⟨-, before, after, rfl, hbefore⟩ := List.find?_eq_some_iff_append.mp hc
    refine ⟨⟨List.forall_mem_flatMap.mpr least, ?_⟩, less⟩
    rw [List.find?_flatMap, List.findSome?_eq_some_iff]
    refine ⟨before, c, after, rfl, (find?_stepsOf less c).mpr hs, fun b hb => ?_⟩
    simpa [leavesAtMost] using hbefore b hb
  · rintro ⟨⟨least, first⟩, less⟩
    rw [List.find?_flatMap, List.findSome?_eq_some_iff] at first
    obtain ⟨before, c, after, rfl, hc, hbefore⟩ := first
    have hs := (find?_stepsOf less c).mp hc
    refine ⟨less, List.forall_mem_flatMap.mp least, c, ?_, hs⟩
    refine List.find?_eq_some_iff_append.mpr
      ⟨leavesAtMost_of_mem hs le_rfl, before, after, rfl, fun b hb => ?_⟩
    simpa [leavesAtMost] using hbefore b hb

/-- A round takes this step. -/
theorem round_iff : Round cs (d, ps) y ↔
    ∃ s, Takes cs d s ∧ y = (s.rest, addPower s.unit s.sign ps) := by
  constructor
  · rintro ⟨best, less⟩
    exact ⟨_, takes_iff.mpr ⟨best, less⟩, rfl⟩
  · rintro ⟨s, h, rfl⟩
    obtain ⟨best, less⟩ := takes_iff.mp h
    exact .take best less

/-- **Order decides.** The candidate that is taken is the first of those that match it. -/
theorem Takes.find? (h : Takes cs d s) : ∃ c ∈ cs, s.unit = c.1 ∧ c.2 ≠ 1 ∧
    cs.find? (fun b => b.2.Matches c.2) = some c := by
  obtain ⟨less, -, c, hc, hs⟩ := h
  obtain ⟨hleaves, before, after, rfl, hbefore⟩ := List.find?_eq_some_iff_append.mp hc
  refine ⟨c, by simp, (mem_stepsOf hs).1, fun hone => ?_, ?_⟩
  · rw [(mem_stepsOf hs).2.2, hone, one_zpow, div_one] at less
    exact lt_irrefl _ less
  · refine List.find?_eq_some_iff_append.mpr
      ⟨decide_eq_true (Or.inl rfl), before, after, rfl, fun b hb => ?_⟩
    rw [Bool.not_eq_true', decide_eq_false_iff_not]
    intro hmatch
    have := hbefore b hb
    rw [leavesAtMost_congr hmatch, hleaves] at this
    exact nomatch this

/-! ## Candidates that make no difference -/

/-- A candidate of the dimension `1`, or one that matches a candidate before it. -/
def Redundant (before : List Candidate) (v : Candidate) : Prop :=
  v.2 = 1 ∨ ∃ u ∈ before, v.2.Matches u.2

/-- A redundant candidate is not the first one that leaves so little. -/
theorem Redundant.find?_insert (h : Redundant before v) (hn : n < d.dimensionality) :
    (before ++ v :: after).find? (leavesAtMost d n) = (before ++ after).find? (leavesAtMost d n) := by
  rw [List.find?_append, List.find?_append]
  cases hfind : before.find? (leavesAtMost d n) with
  | some c => rfl
  | none =>
    -- What matches a candidate before it leaves as much, and that candidate left more than `n`.
    have hv : leavesAtMost d n v = false := by
      rcases h with hone | ⟨u, hu, hmatch⟩
      · rw [Bool.eq_false_iff, Ne, leavesAtMost_iff, hone, mul_one, div_one, or_self]
        exact hn.not_ge
      · rw [leavesAtMost_congr hmatch]
        simpa using List.find?_eq_none.mp hfind u hu
    rw [List.find?_cons_of_neg (by simp [hv])]

/-- The steps of a redundant candidate leave no less than the others. -/
theorem Redundant.least (h : Redundant before v) (hn : n ≤ d.dimensionality)
    (hleast : ∀ c ∈ before, ∀ t ∈ stepsOf d c, n ≤ t.rest.dimensionality) :
    ∀ t ∈ stepsOf d v, n ≤ t.rest.dimensionality := by
  intro t ht
  rcases h with hone | ⟨u, hu, hmatch⟩
  · rw [(mem_stepsOf ht).2.2, hone, one_zpow, div_one]
    exact hn
  · have hleaves := leavesAtMost_of_mem ht le_rfl
    rw [leavesAtMost_congr hmatch] at hleaves
    obtain ⟨t', ht', hle⟩ := List.any_eq_true.mp hleaves
    exact (hleast u hu t' ht').trans (by simpa using hle)

/-- **A redundant candidate is never taken**, and no other step is taken for it. -/
theorem Redundant.takes_insert (h : Redundant before v) :
    Takes (before ++ v :: after) d s ↔ Takes (before ++ after) d s := by
  constructor
  · rintro ⟨less, least, first⟩
    obtain ⟨hbefore, hafter⟩ := List.forall_mem_append.mp least
    refine ⟨less, ?_, by rwa [h.find?_insert less] at first⟩
    exact List.forall_mem_append.mpr ⟨hbefore, (List.forall_mem_cons.mp hafter).2⟩
  · rintro ⟨less, least, first⟩
    obtain ⟨hbefore, hafter⟩ := List.forall_mem_append.mp least
    refine ⟨less, ?_, by rwa [h.find?_insert less]⟩
    exact List.forall_mem_append.mpr
      ⟨hbefore, List.forall_mem_cons.mpr ⟨h.least less.le hbefore, hafter⟩⟩

/-! ## Runs that go along with each other -/

/-- Where rounds with some candidates go along with rounds with others, whole runs do. -/
theorem Rounds.map {cs' : List Candidate}
    {f : Dimension × List (String × Int) → Dimension × List (String × Int)}
    (step : ∀ x y, Round cs x y → Round cs' (f x) (f y)) (h : Rounds cs n x y) :
    Rounds cs' n (f x) (f y) := by
  induction h with
  | refl x => exact .refl _
  | head first _ ih => exact .head (step _ _ first) ih

/-- And then the searches find the same. -/
theorem search?_map {cs' : List Candidate} {i : Dimension → Dimension}
    {g : List (String × Int) → List (String × Int)} (hone : i 1 = 1)
    (step : ∀ x y, Round cs x y → Round cs' (x.map i g) (y.map i g)) {r : List (String × Int)}
    (h : search? cs d ps = some r) : search? cs' (i d) (g ps) = some (g r) := by
  obtain ⟨n, hrounds⟩ := search?_eq_some_iff.mp h
  have hmapped := hrounds.map step
  simp only [Prod.map_apply, hone] at hmapped
  exact search?_eq_some_iff.mpr ⟨n, hmapped⟩

/-- **A redundant candidate makes no difference** to what the search finds. -/
theorem Redundant.search?_insert (h : Redundant before v) (d : Dimension)
    (ps : List (String × Int)) :
    search? (before ++ v :: after) d ps = search? (before ++ after) d ps := by
  refine Option.ext fun r => ⟨search?_map (i := id) (g := id) rfl ?_,
    search?_map (i := id) (g := id) rfl ?_⟩
  · rintro ⟨d, ps⟩ y hround
    obtain ⟨s, hs, rfl⟩ := round_iff.mp hround
    exact round_iff.mpr ⟨s, h.takes_insert.mp hs, rfl⟩
  · rintro ⟨d, ps⟩ y hround
    obtain ⟨s, hs, rfl⟩ := round_iff.mp hround
    exact round_iff.mpr ⟨s, h.takes_insert.mpr hs, rfl⟩

theorem Redundant.powersOf?_insert (h : Redundant before v) (d : Dimension) :
    powersOf? (before ++ v :: after) d = powersOf? (before ++ after) d := by
  rw [powersOf?, powersOf?, h.search?_insert]

/-! ## The units that are found -/

/-- All units of the powers found are the first ones of those that match them. -/
theorem powersOf?_find? {D : String → Dimension} {units : List String} {r : List (String × Int)}
    (h : powersOf? (units.map fun u => (u, D u)) d = some r) :
    ∀ c ∈ r, units.find? (fun u => (D u).Matches (D c.1)) = some c.1 := by
  unfold powersOf? at h
  obtain ⟨all, hall, rfl⟩ := Option.map_eq_some_iff.mp h
  obtain ⟨n, hrounds⟩ := search?_eq_some_iff.mp hall
  have hkeep := hrounds.keep
    (P := fun x => ∀ u ∈ x.2.map Prod.fst, units.find? (fun v => (D v).Matches (D u)) = some u)
    (fun x y hround hx => by
      obtain ⟨s, hs, rfl⟩ := round_iff.mp hround
      obtain ⟨c, hc, hunit, -, hfirst⟩ := hs.find?
      obtain ⟨w, -, rfl⟩ := List.mem_map.mp hc
      intro u hu
      rcases mem_keys_addPower.mp hu with rfl | hu
      · rw [List.find?_map, Option.map_eq_some_iff] at hfirst
        obtain ⟨w', hw', heq⟩ := hfirst
        obtain rfl := (Prod.mk.inj heq).1
        rw [hunit]
        exact hw'
      · exact hx u hu) (by simp)
  exact fun c hc => hkeep c.1 (List.mem_map_of_mem (List.mem_filter.mp hc).1)

/-- **One unit.** Where a candidate matches what is asked for, the first one that does is taken, and
nothing is left. -/
theorem powersOf?_single (hd : d ≠ 1) (h : cs.find? (fun c => c.2.Matches d) = some c) :
    powersOf? cs d = some [(c.1, if c.2 = d then 1 else -1)] := by
  have hpos : 0 < d.dimensionality :=
    Nat.pos_of_ne_zero fun h0 => hd (Dimension.dimensionality_eq_zero_iff.mp h0)
  have hmatch : c.2.Matches d := by simpa using List.find?_some h
  have hfirst : cs.find? (leavesAtMost d 0) = some c := by
    have hsame : leavesAtMost d 0 = fun c => decide (c.2.Matches d) :=
      funext fun c => Bool.eq_iff_iff.mpr (by rw [leavesAtMost_zero_iff, decide_eq_true_iff])
    rw [hsame, h]
  have htakes : Takes cs d ⟨c.1, if c.2 = d then 1 else -1, 1⟩ := by
    refine ⟨hpos, fun _ _ _ _ => Nat.zero_le _, c, hfirst, ?_⟩
    rw [stepsOf_eq]
    by_cases heq : c.2 = d
    · simp [heq]
    · rw [if_neg heq, hmatch.resolve_left heq, mul_inv_cancel]
      exact List.mem_cons_self
  have hrounds : Rounds cs 1 (d, []) (1, [(c.1, if c.2 = d then 1 else -1)]) :=
    .head (round_iff.mpr ⟨_, htakes, rfl⟩) (.refl _)
  rw [powersOf?, search?_eq_some_iff.mpr ⟨1, hrounds⟩]
  by_cases heq : c.2 = d <;> simp [heq]

end BestFit

/-! ## Against a registry -/

namespace Registry

open BestFit

variable {α : Type} [Scalar α] {reg : Registry α} {D : String → Dimension}

/-- Two searches end alike: both with powers, which are related, or both with a failure of the kind
`k`. -/
def EndAlike (k : Failure.Kind) (r : List (String × Int) → List (String × Int) → Prop) :
    Outcome (List (String × Int)) → Outcome (List (String × Int)) → Prop
  | .ok ps, .ok qs => r ps qs
  | .error f, .error g => f.kind = k ∧ g.kind = k
  | _, _ => False

/-- Searches end alike when the powers found are images of each other. -/
theorem endAlike_decompose {r : List (String × Int) → List (String × Int) → Prop}
    {g : List (String × Int) → List (String × Int)} {units units' : List String} {d d' : Dimension}
    (h : ∀ u ∈ units, ∃ q, reg.parse u = .ok q ∧ q.dimension = D u)
    (h' : ∀ u ∈ units', ∃ q, reg.parse u = .ok q ∧ q.dimension = D u)
    (heq : powersOf? (units'.map fun u => (u, D u)) d' =
      (powersOf? (units.map fun u => (u, D u)) d).map g)
    (hkind : refusalKind d' = refusalKind d) (hr : ∀ ps, r ps (g ps)) :
    EndAlike (refusalKind d) r (reg.decompose d units) (reg.decompose d' units') := by
  rw [decompose_eq d h, decompose_eq d' h', heq]
  cases powersOf? (units.map fun u => (u, D u)) d with
  | none => exact ⟨Failure.kind_showing d _, (Failure.kind_showing d' _).trans hkind⟩
  | some ps => exact hr ps

/-- **What makes no difference.** Let all unit strings of a list be known to a registry, with
dimensions `D`. A unit of the list that has the dimension `1`, or that matches a unit before it, can
be left out or put in: the search ends alike, with the same powers in the same order. Of the units
that match each other the order of the list alone decides which one is used, the first one. -/
theorem decompose_insert (reg : Registry α) (units : List String) (D : String → Dimension)
    (h : ∀ u ∈ units, ∃ q, reg.parse u = .ok q ∧ q.dimension = D u) :
    (∀ d before v after, units = before ++ v :: after →
      (D v = 1 ∨ ∃ u ∈ before, (D v).Matches (D u)) →
        EndAlike (refusalKind d) (fun powers powers' => powers' = powers)
          (reg.decompose d (before ++ after)) (reg.decompose d units)) ∧
    ∀ d powers, reg.decompose d units = .ok powers →
      ∀ c ∈ powers, units.find? (fun u => (D u).Matches (D c.1)) = some c.1 := by
  constructor
  · rintro d before v after rfl hv
    have hredundant : Redundant (before.map fun u => (u, D u)) (v, D v) :=
      hv.imp id fun ⟨u, hu, hmatch⟩ => ⟨(u, D u), List.mem_map_of_mem hu, hmatch⟩
    obtain ⟨hbefore, hafter⟩ := List.forall_mem_append.mp h
    refine endAlike_decompose (g := id)
      (List.forall_mem_append.mpr ⟨hbefore, (List.forall_mem_cons.mp hafter).2⟩) h ?_ rfl fun _ => rfl
    rw [Option.map_id, List.map_append, List.map_append, List.map_cons]
    exact hredundant.powersOf?_insert d
  · intro d powers hpowers
    exact powersOf?_find? ((decompose_ok d h).mp hpowers)

theorem decompose_insert_second :
    let reg : Registry Float := .standard
    let units := ["m", "1", "Hz", "s"]
    let D : String → Dimension := fun u =>
      if u = "m" then .base .length else if u = "1" then 1
      else if u = "Hz" then .base .time ^ (-1 : Int) else .base .time
    (∀ u ∈ units, ∃ q, reg.parse u = .ok q ∧ q.dimension = D u) ∧
    units = ["m", "1", "Hz"] ++ "s" :: [] ∧ (∃ u ∈ ["m", "1", "Hz"], (D "s").Matches (D u)) ∧
    reg.decompose .velocity units = .ok [("m", 1), ("Hz", 1)] ∧
    EndAlike .insufficientUnits (fun powers powers' => powers' = powers)
      (reg.decompose .velocity ["m", "1", "Hz"]) (reg.decompose .velocity units) ∧
    ∀ c ∈ [("m", (1 : Int)), ("Hz", 1)],
      units.find? (fun u => (D u).Matches (D c.1)) = some c.1 := by
  intro reg units D
  have hknown : ∀ u ∈ units, ∃ q, reg.parse u = .ok q ∧ q.dimension = D u := by decide +kernel
  have hmatch : ∃ u ∈ ["m", "1", "Hz"], (D "s").Matches (D u) := by decide +kernel
  have hpowers : reg.decompose .velocity units = .ok [("m", 1), ("Hz", 1)] := by decide +kernel
  obtain ⟨hsame, hfirst⟩ := decompose_insert reg units D hknown
  exact ⟨hknown, rfl, hmatch, hpowers, hsame .velocity _ "s" [] rfl (Or.inr hmatch),
    hfirst .velocity _ hpowers⟩

/-- **A unit for it.** Let all unit strings of a list be known to a registry, with dimensions `D`.
Where one of them has the dimension that is asked for, or its inverse, the search finds one unit: the
first one of the list that does, with the power 1 or −1. -/
theorem decompose_single (reg : Registry α) (d : Dimension) (units : List String)
    (D : String → Dimension) (h : ∀ u ∈ units, ∃ q, reg.parse u = .ok q ∧ q.dimension = D u)
    (hd : d ≠ 1) (hmatch : ∃ u ∈ units, (D u).Matches d) :
    ∃ u, units.find? (fun u => (D u).Matches d) = some u ∧
      (D u = d ∧ reg.decompose d units = .ok [(u, 1)] ∨
        D u = d⁻¹ ∧ reg.decompose d units = .ok [(u, -1)]) := by
  obtain ⟨v, hv, hvd⟩ := hmatch
  obtain ⟨u, hu⟩ := Option.isSome_iff_exists.mp
    (List.find?_isSome (p := fun u => (D u).Matches d).mpr ⟨v, hv, decide_eq_true hvd⟩)
  have hud : (D u).Matches d := by simpa using List.find?_some hu
  have hfirst : (units.map fun u => (u, D u)).find? (fun c => c.2.Matches d) = some (u, D u) := by
    rw [List.find?_map]
    exact congrArg (Option.map fun u => (u, D u)) hu
  have hpowers := (decompose_ok d h).mpr (powersOf?_single hd hfirst)
  refine ⟨u, hu, ?_⟩
  by_cases heq : D u = d
  · rw [if_pos heq] at hpowers
    exact Or.inl ⟨heq, hpowers⟩
  · rw [if_neg heq] at hpowers
    exact Or.inr ⟨hud.resolve_left heq, hpowers⟩

theorem decompose_single_newton :
    let reg : Registry Float := .standard
    let d := Dimension.force⁻¹
    let units := ["kg", "m", "N", "s", "lbf"]
    let D : String → Dimension := fun u =>
      if u = "kg" then .base .mass else if u = "m" then .base .length
      else if u = "s" then .base .time else .force
    (∀ u ∈ units, ∃ q, reg.parse u = .ok q ∧ q.dimension = D u) ∧ d ≠ 1 ∧
    (∃ u ∈ units, (D u).Matches d) ∧
    ∃ u, units.find? (fun u => (D u).Matches d) = some u ∧
      (D u = d ∧ reg.decompose d units = .ok [(u, 1)] ∨
        D u = d⁻¹ ∧ reg.decompose d units = .ok [(u, -1)]) := by
  intro reg d units D
  have hknown : ∀ u ∈ units, ∃ q, reg.parse u = .ok q ∧ q.dimension = D u := by decide +kernel
  have hmatch : ∃ u ∈ units, (D u).Matches d := by decide +kernel
  exact ⟨hknown, by decide, hmatch, decompose_single reg d units D hknown (by decide) hmatch⟩

end Registry

end Quantities
