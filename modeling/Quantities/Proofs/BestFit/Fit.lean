import Quantities.Proofs.BestFit.Rendering
import Quantities.Unit.Standard
import Quantities.Value.Operand

/-!
# When a best fit succeeds

The powers that are found for a dimension are exact, but their text need not be: a power behind a
unit raises its last term only, and no power can be written behind a unit that has one or ends in a
blank; and what follows a slash is divided by.

* `Writable`: the text of powers can be read and has the dimension that is asked for.
* `Unshifted`: none of the units that are used has an offset. Then the best fit succeeds exactly when
  the text is writable (`fit_ok_iff_writable`).
* `Plain`: a unit is one term without a power. Powers of such units are always writable
  (`writable_of_plain`).
* `fitAmong_text`, `decomposeValue_text`: the best fit among values that are unit strings.

Main result:
* **`Quantity.fit_ok_iff`**: where there are powers for a quantity, the best fit succeeds exactly
  when their text is writable. In no case does it answer with a text of another dimension. Two
  quotients in a product show that it can fail (`fit_quotient_squared`).
-/

namespace Quantities

open BestFit
open Text (tail)

variable {α : Type} [Scalar α] {reg : Registry α} {text : String} {q : Quantity α}
  {units : List String} {powers : List (String × Int)} {c : String × Int}

namespace Registry

/-! ## Texts that say what the powers say -/

/-- The text of powers can be read, and has the dimension `d`: every power other than one stands
behind a unit that has none of its own, there is at most one slash, and what the powers miss by
raising the last terms only, and by dividing by what follows a slash, makes no difference. -/
structure Writable (reg : Registry α) (powers : List (String × Int)) (d : Dimension) : Prop where
  takesPower : ∀ c ∈ powers, c.2.natAbs ≠ 1 →
    Term.takesPower (tail Plan.isBreak c.1.toList) = true
  slashes : slashes powers ≤ 1
  dimension : reg.writtenDimension powers = d

/-- A unit string is a product of terms without offsets. -/
def IsProduct (reg : Registry α) (unit : String) : Prop :=
  ∃ p, Plan.read unit = .ok p ∧ (∀ t ∈ p.terms, reg.Factors t.2) ∧
    reg.planDimension p = reg.dimensionOf unit

theorem natAbs_le_of_exact {D : String → Dimension} {d : Dimension} (h : Exact D units d powers)
    (hc : c ∈ powers) : c.2.natAbs ≤ d.dimensionality :=
  (List.le_sum_of_mem (List.mem_map_of_mem (f := fun c => c.2.natAbs) hc)).trans h.sum_le

theorem dimensionOf_of_parse {v : Quantity α} (h : reg.parse text = .ok v) :
    reg.dimensionOf text = v.dimension := by
  rw [dimensionOf, h]

/-- A unit with its power. -/
theorem IsProduct.denotes_term {unit : String} (h : reg.IsProduct unit) {n : Nat} (hpos : 0 < n)
    (hn : n ≤ 10 ^ 300)
    (htakes : n ≠ 1 → Term.takesPower (tail Plan.isBreak unit.toList) = true) :
    reg.Denotes (termText unit n).toList (hasSlash unit) (reg.raisedDimension unit n) := by
  obtain ⟨p, hread, hfactors, hd⟩ := h
  have hreads := Plan.read_ok.mp hread
  have hslash : hasSlash unit = p.denominator.isSome := by
    rw [hasSlash, hreads.count_slash]
    cases p.denominator <;> rfl
  rw [toList_termText, hslash, raisedDimension, ← hd]
  split
  · rename_i h1
    rw [h1, Nat.cast_one, sub_self, zpow_zero, mul_one]
    exact ⟨p, hreads, rfl, hfactors, rfl⟩
  · rename_i h1
    have hlimit : 10 ^ 300 < Number.integerLimit := by
      rw [show 300 = 150 + 150 from rfl, pow_add]
      decide +kernel
    have hdigits : ∀ k, k < Term.digitLimit → 10 ^ k < 10 ^ Term.digitLimit := fun k hk =>
      Nat.pow_lt_pow_right (by decide) hk
    exact denotes_raise hread hfactors (htakes h1) hpos (hn.trans_lt (hdigits 300 (by decide)))
      (hn.trans_lt hlimit)

/-- Where there is a word with a power behind it, the unit took it. -/
theorem IsProduct.takesPower {unit : String} (h : reg.IsProduct unit) {n : Nat} (hn : n ≠ 1)
    (hw : ∀ w ∈ Text.pieces Plan.isBreak (termText unit n).toList, ∃ t, Term.Reads w t) :
    Term.takesPower (tail Plan.isBreak unit.toList) = true := by
  obtain ⟨p, hread, -, -⟩ := h
  rw [toList_termText, if_neg hn] at hw
  refine Plan.takesPower_of_word (Plan.read_ok.mp hread) hw fun c hc => ?_
  exact Plan.not_isBreak_of_mem (List.mem_cons_of_mem _ hc)

theorem IsProduct.exists_word {unit : String} (h : reg.IsProduct unit) (n : Nat) :
    ∃ w, w ∈ Text.pieces Plan.isBreak (termText unit n).toList := by
  obtain ⟨p, hread, -, -⟩ := h
  rw [toList_termText]
  split
  · exact (Plan.read_ok.mp hread).exists_word
  · obtain ⟨before, -, hpieces⟩ := Text.pieces_append (p := Plan.isBreak) unit.toList
      (fun c hc => Plan.not_isBreak_of_mem (n := n) hc) (by simp)
    rw [hpieces]
    exact ⟨_, List.mem_append_right _ List.mem_cons_self⟩

/-- The text of powers is not blank. -/
theorem not_blank_renderPowers (h0 : ∀ c ∈ powers, c.2 ≠ 0)
    (hproduct : ∀ c ∈ powers, reg.IsProduct c.1) :
    (renderPowers powers).toList.all Text.isBlank = false := by
  by_contra hblank
  rw [Bool.not_eq_false, List.all_eq_true] at hblank
  cases powers with
  | nil => exact absurd (hblank '1' (by decide)) (by decide)
  | cons c powers =>
    obtain ⟨w, hw⟩ := (hproduct c List.mem_cons_self).exists_word c.2.natAbs
    have hmem : w ∈ Text.pieces Plan.isBreak (renderPowers (c :: powers)).toList :=
      pieces_renderPowers List.mem_cons_self (h0 c List.mem_cons_self) hw
    have hbreak : ∀ x ∈ (renderPowers (c :: powers)).toList, Plan.isBreak x = true := fun x hx => by
      rw [Plan.isBreak, hblank x hx, Bool.true_or]
    rw [Text.pieces_eq_nil hbreak] at hmem
    exact absurd hmem (by simp)

/-- The text of powers can be read only where it is writable. -/
theorem writable_of_read {p : Plan} (h0 : ∀ c ∈ powers, c.2 ≠ 0)
    (hproduct : ∀ c ∈ powers, reg.IsProduct c.1) (h : Plan.read (renderPowers powers) = .ok p) :
    reg.Writable powers (reg.writtenDimension powers) := by
  have hreads := Plan.read_ok.mp h
  refine ⟨fun c hc h1 => ?_, ?_, rfl⟩
  · refine (hproduct c hc).takesPower h1 fun w hw => ?_
    obtain ⟨t, -, ht⟩ := hreads.word (pieces_renderPowers hc (h0 c hc) hw)
    exact ⟨t.2, ht⟩
  · rw [← count_renderPowers h0, hreads.count_slash]
    split <;> omega

variable [Scalar.Grounded α]

/-- What is writable stands for something. -/
theorem Writable.denotes {d : Dimension} (h : reg.Writable powers d)
    (hone : reg.parse "1" = .ok .unity) (h0 : ∀ c ∈ powers, c.2 ≠ 0)
    (hle : ∀ c ∈ powers, c.2.natAbs ≤ 10 ^ 300) (hproduct : ∀ c ∈ powers, reg.IsProduct c.1) :
    ∃ slash, reg.Denotes (renderPowers powers).toList slash d := by
  have hdenotes : reg.Denotes "1".toList false 1 := by
    rcases denotes_of_parse hone (Quantity.hasOffset_of_zero rfl) with
      ⟨hblank, -⟩ | ⟨p, hread, hfactors, hd⟩
    · exact absurd hblank (by decide)
    · obtain rfl : p = ⟨[⟨none, "1", 1⟩], none⟩ :=
        Except.ok.inj (hread.symm.trans (by decide +kernel))
      exact ⟨_, Plan.read_ok.mp hread, rfl, hfactors, hd⟩
  rw [← h.dimension]
  refine denotes_renderPowers hdenotes (fun c hc => ?_) h.slashes
  exact (hproduct c hc).denotes_term (Int.natAbs_pos.mpr (h0 c hc)) (hle c hc)
    (h.takesPower c hc)

end Registry

variable [Scalar.Grounded α]

/-- There is a value in a unit exactly when the unit string stands for something of the dimension of
the quantity. -/
theorem Quantity.valueIn_ok : (∃ m, q.valueIn reg text = .ok m) ↔
    ∃ u, reg.parse text = .ok u ∧ u.dimension = q.dimension := by
  unfold Quantity.valueIn
  constructor
  · rintro ⟨m, h⟩
    obtain ⟨u, hu, h⟩ := Outcome.bind_ok.mp h
    unfold Quantity.convert at h
    split at h
    · rename_i hd
      exact ⟨u, hu, hd.symm⟩
    · exact nomatch h
  · rintro ⟨u, hu, hd⟩
    obtain ⟨x, hx⟩ := Registry.parse_members hu
    obtain ⟨m, hm⟩ := Magnitude.exists_combine (f := (· / ·))
      (a := q.effective.map fun x => x - u.offset) hx
    refine ⟨m, Outcome.bind_ok.mpr ⟨u, hu, ?_⟩⟩
    rw [Quantity.convert, if_pos hd.symm]
    exact hm

/-! ## The best fit -/

namespace Registry

omit [Scalar.Grounded α] in
theorem exact_of_decompose {d : Dimension} (hunits : ∀ u ∈ units, ∃ v, reg.parse u = .ok v)
    (h : reg.decompose d units = .ok powers) : Exact reg.dimensionOf units d powers := by
  refine powersOf?_exact ((decompose_ok d fun u hu => ?_).mp h)
  obtain ⟨v, hv⟩ := hunits u hu
  exact ⟨v, hv, (dimensionOf_of_parse hv).symm⟩

/-- None of the units that are used has an offset. -/
def Unshifted (reg : Registry α) (powers : List (String × Int)) : Prop :=
  ∀ c ∈ powers, ∃ v, reg.parse c.1 = .ok v ∧ v.hasOffset = false

/-- Units without an offset that are used are products of terms, and no blank texts. -/
theorem isProduct_of_exact {d : Dimension} (h : Exact reg.dimensionOf units d powers)
    (hunshifted : reg.Unshifted powers) : ∀ c ∈ powers, reg.IsProduct c.1 := by
  intro c hc
  obtain ⟨v, hv, ho⟩ := hunshifted c hc
  rcases denotes_of_parse hv ho with ⟨-, rfl⟩ | ⟨p, hread, hfactors, hd⟩
  · exact absurd (dimensionOf_of_parse hv) (h.ne_one c hc)
  · exact ⟨p, hread, hfactors, hd.trans (dimensionOf_of_parse hv).symm⟩

end Registry

/-- What is writable stands for the dimension that is asked for, without an offset. -/
theorem Registry.Writable.parse {d : Dimension} (h : reg.Writable powers d)
    (hone : reg.parse "1" = .ok .unity) (h0 : ∀ c ∈ powers, c.2 ≠ 0)
    (hle : ∀ c ∈ powers, c.2.natAbs ≤ 10 ^ 300) (hproduct : ∀ c ∈ powers, reg.IsProduct c.1) :
    ∃ u, reg.parse (renderPowers powers) = .ok u ∧ u.dimension = d ∧ u.offset = 0 := by
  obtain ⟨slash, hd⟩ := h.denotes hone h0 hle hproduct
  obtain ⟨u, x, hu, hs, hoff⟩ := hd.parse
  exact ⟨u, hu, hs.dimension, hoff⟩

/-- The text of powers stands for something only where it is writable. -/
theorem Registry.writable_of_parse {u : Quantity α} (hone : reg.parse "1" = .ok .unity)
    (h0 : ∀ c ∈ powers, c.2 ≠ 0) (hle : ∀ c ∈ powers, c.2.natAbs ≤ 10 ^ 300)
    (hproduct : ∀ c ∈ powers, reg.IsProduct c.1)
    (hu : reg.parse (renderPowers powers) = .ok u) :
    reg.Writable powers u.dimension ∧ u.offset = 0 := by
  have hread := hu
  rw [Registry.parse, not_blank_renderPowers h0 hproduct] at hread
  obtain ⟨p, hp, -⟩ := Outcome.bind_ok.mp hread
  have hw := writable_of_read h0 hproduct hp
  obtain ⟨u', hu', hd, hoff⟩ := hw.parse hone h0 hle hproduct
  obtain rfl := Except.ok.inj (hu.symm.trans hu')
  exact ⟨hd ▸ hw, hoff⟩

omit [Scalar.Grounded α] in
theorem Quantity.fit_eq (h : reg.decompose q.dimension units = .ok powers) :
    q.fit reg units = q.valueIn reg (renderPowers powers) >>= fun m =>
      .ok (m, renderPowers powers) := by
  unfold Quantity.fit
  rw [h]
  rfl

/-- A best fit succeeds when the text of the powers stands for the dimension of the quantity. -/
theorem Quantity.fit_ok (h : reg.decompose q.dimension units = .ok powers) :
    (∃ r, q.fit reg units = .ok r) ↔
      ∃ u, reg.parse (renderPowers powers) = .ok u ∧ u.dimension = q.dimension := by
  rw [← Quantity.valueIn_ok, Quantity.fit_eq h]
  constructor
  · rintro ⟨r, hr⟩
    obtain ⟨m, hm, -⟩ := Outcome.bind_ok.mp hr
    exact ⟨m, hm⟩
  · rintro ⟨m, hm⟩
    exact ⟨_, Outcome.bind_ok.mpr ⟨m, hm, rfl⟩⟩

omit [Scalar.Grounded α] in
theorem Quantity.text_of_fit {m : Magnitude α}
    (hpowers : reg.decompose q.dimension units = .ok powers)
    (h : q.fit reg units = .ok (m, text)) : text = renderPowers powers := by
  rw [Quantity.fit_eq hpowers] at h
  obtain ⟨m', -, h⟩ := Outcome.bind_ok.mp h
  exact (Prod.mk.inj (Except.ok.inj h)).2.symm

/-- **With units without offsets** a best fit succeeds where the text of the powers is writable. -/
theorem Quantity.fit_ok_iff_writable (hone : reg.parse "1" = .ok .unity)
    (hunits : ∀ u ∈ units, ∃ v, reg.parse u = .ok v)
    (hrange : q.dimension.dimensionality ≤ 10 ^ 300)
    (hpowers : reg.decompose q.dimension units = .ok powers) (hunshifted : reg.Unshifted powers) :
    (∃ r, q.fit reg units = .ok r) ↔ reg.Writable powers q.dimension := by
  have exact := Registry.exact_of_decompose hunits hpowers
  have hproduct := Registry.isProduct_of_exact exact hunshifted
  have hle : ∀ c ∈ powers, c.2.natAbs ≤ 10 ^ 300 := fun c hc =>
    (Registry.natAbs_le_of_exact exact hc).trans hrange
  rw [Quantity.fit_ok hpowers]
  constructor
  · rintro ⟨u, hu, hd⟩
    exact hd ▸ (Registry.writable_of_parse hone exact.ne_zero hle hproduct hu).1
  · intro h
    obtain ⟨u, hu, hd, -⟩ := h.parse hone exact.ne_zero hle hproduct
    exact ⟨u, hu, hd⟩

/-- **When a best fit succeeds.** Let the number one stand for itself in a registry, and let all unit
strings of a list stand there for something without an offset. Where there are powers of them for
the dimension of a quantity, of a dimensionality that is in range, the best fit succeeds exactly
when the text of the powers says what they say; and the text it answers with always stands for the
dimension of the quantity, without an offset. -/
theorem Quantity.fit_ok_iff (reg : Registry α) (q : Quantity α) (units : List String)
    (powers : List (String × Int)) (hone : reg.parse "1" = .ok .unity)
    (hunits : ∀ u ∈ units, ∃ v, reg.parse u = .ok v ∧ v.hasOffset = false)
    (hrange : q.dimension.dimensionality ≤ 10 ^ 300)
    (hpowers : reg.decompose q.dimension units = .ok powers) :
    ((∃ r, q.fit reg units = .ok r) ↔ reg.Writable powers q.dimension) ∧
      ∀ m text, q.fit reg units = .ok (m, text) →
        ∃ u, reg.parse text = .ok u ∧ u.dimension = q.dimension ∧ u.offset = 0 := by
  have hknown : ∀ u ∈ units, ∃ v, reg.parse u = .ok v := fun u hu =>
    (hunits u hu).imp fun _ => And.left
  have exact := Registry.exact_of_decompose hknown hpowers
  have hunshifted : reg.Unshifted powers := fun c hc => hunits c.1 (exact.mem c hc)
  refine ⟨Quantity.fit_ok_iff_writable hone hknown hrange hpowers hunshifted, fun m text h => ?_⟩
  obtain ⟨u, hu, hd⟩ := (Quantity.fit_ok hpowers).mp ⟨_, h⟩
  have hle : ∀ c ∈ powers, c.2.natAbs ≤ 10 ^ 300 := fun c hc =>
    (Registry.natAbs_le_of_exact exact hc).trans hrange
  rw [Quantity.text_of_fit hpowers h]
  exact ⟨u, hu, hd, (Registry.writable_of_parse hone exact.ne_zero hle
    (Registry.isProduct_of_exact exact hunshifted) hu).2⟩

theorem le_pow_of_le {n k m : Nat} (h : n ≤ m) (hk : k ≠ 0) : n ≤ m ^ k :=
  h.trans (Nat.le_self_pow hk m)

theorem Quantity.fit_ok_iff_newton :
    let reg : Registry Float := .standard
    let q : Quantity Float := .plain (.scalar 1) Dimension.force
    let units := ["kg", "m", "s"]
    let powers : List (String × Int) := [("kg", 1), ("m", 1), ("s", -2)]
    (reg.parse "1" = .ok .unity ∧
      (∀ u ∈ units, ∃ v, reg.parse u = .ok v ∧ v.hasOffset = false) ∧
      q.dimension.dimensionality ≤ 10 ^ 300 ∧ reg.decompose q.dimension units = .ok powers) ∧
    ((∃ r, q.fit reg units = .ok r) ↔ reg.Writable powers q.dimension) ∧
      ∀ m text, q.fit reg units = .ok (m, text) →
        ∃ u, reg.parse text = .ok u ∧ u.dimension = q.dimension ∧ u.offset = 0 := by
  intro reg q units powers
  have hone : reg.parse "1" = .ok .unity := by decide +kernel
  have hunits : ∀ u ∈ units, ∃ v, reg.parse u = .ok v ∧ v.hasOffset = false := by decide +kernel
  have hrange : q.dimension.dimensionality ≤ 10 ^ 300 := le_pow_of_le (by decide) (by decide)
  have hpowers : reg.decompose q.dimension units = .ok powers := by decide +kernel
  exact ⟨⟨hone, hunits, hrange, hpowers⟩, Quantity.fit_ok_iff reg q units powers hone hunits hrange
    hpowers⟩

/-- The square of a velocity is found as the power two of `m / s`, but the text of it is that of an
acceleration. -/
theorem fit_quotient_squared :
    let reg : Registry Float := .standard
    let q : Quantity Float := .plain (.scalar 1) (Dimension.velocity ^ (2 : Int))
    let units := ["m / s"]
    reg.parse "1" = .ok .unity ∧
      (∀ u ∈ units, ∃ v, reg.parse u = .ok v ∧ v.hasOffset = false) ∧
      q.dimension.dimensionality ≤ 10 ^ 300 ∧
      reg.decompose q.dimension units = .ok [("m / s", 2)] ∧
      q.fit reg units =
        .error (.inconvertible q.dimension "m / s^2" Dimension.acceleration) := by
  intro reg q units
  refine ⟨?_, ?_, le_pow_of_le (by decide) (by decide), ?_, ?_⟩ <;> decide +kernel

/-! ## Plain units -/

namespace Registry

/-- A unit string is one term without a power. -/
structure Plain (reg : Registry α) (unit : String) : Prop where
  product : reg.IsProduct unit
  term : ∃ t, Plan.read unit = .ok ⟨[t], none⟩
  takesPower : Term.takesPower (tail Plan.isBreak unit.toList) = true

/-- Such a unit has no offset. -/
theorem Plain.parse {unit : String} (h : reg.Plain unit) :
    ∃ v, reg.parse unit = .ok v ∧ v.hasOffset = false := by
  obtain ⟨p, hread, hfactors, -⟩ := h.product
  have hdenotes : reg.Denotes unit.toList _ _ := ⟨p, Plan.read_ok.mp hread, rfl, hfactors, rfl⟩
  obtain ⟨v, _, hv, hs, -⟩ := hdenotes.parse
  exact ⟨v, hv, hs.hasOffset⟩

omit [Scalar.Grounded α]

theorem Plain.count_slash {unit : String} (h : reg.Plain unit) : unit.toList.count '/' = 0 := by
  obtain ⟨t, ht⟩ := h.term
  rw [(Plan.read_ok.mp ht).count_slash]
  rfl

/-- The only term is the last one. -/
theorem Plain.lastDimension {unit : String} (h : reg.Plain unit) :
    reg.lastDimension unit = reg.dimensionOf unit := by
  obtain ⟨t, ht⟩ := h.term
  obtain ⟨p, hread, -, hd⟩ := h.product
  obtain rfl := Except.ok.inj (ht.symm.trans hread)
  rw [Registry.lastDimension, ht, ← hd, ← prod_termDimension]
  simp [Plan.terms]

theorem Plain.raisedDimension {unit : String} (h : reg.Plain unit) (n : Nat) :
    reg.raisedDimension unit n = reg.dimensionOf unit ^ (n : Int) := by
  rw [Registry.raisedDimension, h.lastDimension, ← zpow_one_add, add_sub_cancel]

theorem sideDimension_of_plain (h : ∀ c ∈ powers, reg.Plain c.1) :
    reg.sideDimension powers =
      (powers.map fun c => reg.dimensionOf c.1 ^ (c.2.natAbs : Int)).prod := by
  have hslash : ∀ c ∈ powers, hasSlash c.1 = false := fun c hc => by
    rw [hasSlash, (h c hc).count_slash]
    rfl
  rw [sideDimension, juxtaposed_of_false (List.forall_mem_map.mpr hslash), List.map_map]
  refine congrArg _ (List.map_congr_left fun c hc => ?_)
  exact (h c hc).raisedDimension c.2.natAbs

/-- Powers above zero over powers below zero. -/
theorem prod_filter_div (D : String → Dimension) :
    ∀ {powers : List (String × Int)}, (∀ c ∈ powers, c.2 ≠ 0) →
      ((powers.filter fun c => 0 < c.2).map fun c => D c.1 ^ (c.2.natAbs : Int)).prod /
        ((powers.filter fun c => c.2 < 0).map fun c => D c.1 ^ (c.2.natAbs : Int)).prod =
          (powers.map fun c => D c.1 ^ c.2).prod
  | [], _ => div_one 1
  | c :: powers, h => by
    have ih := prod_filter_div D fun x hx => h x (List.mem_cons_of_mem c hx)
    rw [List.map_cons (l := powers), List.prod_cons, ← ih]
    rcases lt_or_gt_of_ne (h c List.mem_cons_self) with hc | hc
    · have habs : (c.2.natAbs : Int) = -c.2 := by omega
      rw [List.filter_cons_of_neg (by simpa using hc.le),
        List.filter_cons_of_pos (by simpa using hc), List.map_cons, List.prod_cons, habs, zpow_neg,
        div_mul_eq_div_div, div_inv_eq_mul, mul_div_assoc', mul_comm]
    · have habs : (c.2.natAbs : Int) = c.2 := by omega
      rw [List.filter_cons_of_pos (by simpa using hc),
        List.filter_cons_of_neg (by simpa using hc.le), List.map_cons, List.prod_cons, habs,
        mul_div_assoc]

/-- **Plain units are always writable.** -/
theorem writable_of_plain {d : Dimension} (exact : Exact reg.dimensionOf units d powers)
    (h : ∀ c ∈ powers, reg.Plain c.1) : reg.Writable powers d := by
  refine ⟨fun c hc _ => (h c hc).takesPower, ?_, ?_⟩
  · have hsum : (powers.map fun c => c.1.toList.count '/').sum = 0 := by
      rw [List.sum_eq_zero_iff]
      exact List.forall_mem_map.mpr fun c hc => (h c hc).count_slash
    rw [slashes, hsum]
    split <;> omega
  · rw [writtenDimension, sideDimension_of_plain fun c hc => h c (List.mem_filter.mp hc).1,
      sideDimension_of_plain fun c hc => h c (List.mem_filter.mp hc).1,
      prod_filter_div _ exact.ne_zero, exact.prod]

end Registry

/-! ## Lists of values -/

/-- Unit strings are read as values. -/
theorem Registry.readUnits_text (reg : Registry Float) : ∀ units : List String,
    reg.readUnits (units.map .text) =
      reg.candidates units >>= fun cs => .ok (cs.map fun c => (some c.1, c.2))
  | [] => rfl
  | u :: units => by
    have ih := readUnits_text reg units
    unfold readUnits candidates at ih ⊢
    rw [List.map_cons, List.mapM_cons, List.mapM_cons, ih]
    generalize (units.mapM fun u => do
      .ok (u, (← reg.parse u).dimension) : Outcome (List Candidate)) = rest
    cases hu : reg.parse u <;> cases rest <;> simp [Value.unitText, parseUnit, hu, bind,
      Except.bind, pure, Except.pure]

theorem Registry.candidates_fst {reg : Registry Float} {cs : List Candidate}
    (h : reg.candidates units = .ok cs) : cs.map Prod.fst = units := by
  unfold candidates at h
  have := Outcome.mapM_ok.mp h
  clear h
  induction this with
  | nil => rfl
  | cons hc _ ih =>
    obtain ⟨q, -, hc⟩ := Outcome.bind_ok.mp hc
    rw [List.map_cons, ih, ← Except.ok.inj hc]

/-- The powers among candidates that all have a unit string. -/
theorem Registry.powersAmong_text {reg : Registry Float} {cs : List Candidate}
    (h : reg.candidates units = .ok cs) (d : Dimension) :
    powersAmong (cs.map fun c => (some c.1, c.2)) d = reg.decompose d units := by
  rw [decompose, h, ← candidates_fst h]
  cases hp : powersOf? cs d <;>
    simp [powersAmong, hp, Function.comp_def, bind, Except.bind]

/-- The powers of unit strings are the powers of the values that they are. -/
theorem Registry.decomposeValue_text (d : Dimension) (reg : Registry Float) (units : List String) :
    reg.decomposeValue (.dimension d) (units.map .text) = reg.decompose d units := by
  unfold decomposeValue
  rw [Registry.readUnits_text]
  cases h : reg.candidates units with
  | error f => rw [decompose, h]; rfl
  | ok cs => exact powersAmong_text h d

/-- The best fit among unit strings is the best fit among the values that they are. -/
theorem Quantity.fitAmong_text (q : Quantity Float) (reg : Registry Float) (units : List String) :
    q.fitAmong reg (units.map .text) = q.fit reg units := by
  unfold Quantity.fitAmong Quantity.fit
  rw [Registry.readUnits_text]
  cases h : reg.candidates units with
  | error f => rw [Registry.decompose, h]; rfl
  | ok cs => rw [← Registry.powersAmong_text h]; rfl

end Quantities
