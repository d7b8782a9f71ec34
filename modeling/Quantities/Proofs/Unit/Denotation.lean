import Quantities.Proofs.Unit.Evaluation
import Quantities.Proofs.Unit.Reading

/-!
# The dimension of a text

`Registry.Denotes` says of a text that it is read as a plan of terms that can all be part of a
product, whether it has a slash, and which dimension it has. What is known so about two texts is
known about the two put together:

* `Denotes.product_append`, `Denotes.quotient_append`: next to each other. What follows a quotient
  is divided by;
* `Denotes.over`: with a slash between them;
* **`denotes_raise`**: a text with a power behind it has the dimension of the text, and of its last
  term as often again as the power says beyond the first;
* `Denotes.parse` and `denotes_of_parse`: such texts are the unit strings that stand for something
  without an offset.
-/

namespace Quantities.Registry

open Text (tail)

variable {α : Type} [Scalar α] {reg : Registry α} {a b cs : List Char} {text : String}
  {d e : Dimension} {slash : Bool} {p : Plan}

/-- A text is a product of terms without offsets, with or without a slash, of some dimension. -/
def Denotes (reg : Registry α) (cs : List Char) (slash : Bool) (d : Dimension) : Prop :=
  ∃ p, Plan.Reads cs p ∧ p.denominator.isSome = slash ∧ (∀ t ∈ p.terms, reg.Factors t.2) ∧
    reg.planDimension p = d

/-! ## Two texts -/

theorem factors_terms : (∀ t ∈ p.terms, reg.Factors t.2) ↔
    (∀ t ∈ p.numerator, reg.Factors t) ∧ ∀ t ∈ p.denominator.getD [], reg.Factors t := by
  simp only [Plan.terms, List.forall_mem_append, List.forall_mem_map]

theorem Denotes.product_append (ha : reg.Denotes a false d) (hb : reg.Denotes b slash e) :
    reg.Denotes (a ++ ' ' :: b) slash (d * e) := by
  obtain ⟨⟨ts, ds⟩, hra, hslash, hfa, rfl⟩ := ha
  obtain rfl : ds = none := by simpa using hslash
  obtain ⟨q, hrb, hslash, hfb, rfl⟩ := hb
  rw [factors_terms] at hfa hfb
  refine ⟨_, hra.product_append hrb, hslash, factors_terms.mpr ⟨?_, hfb.2⟩, ?_⟩
  · exact List.forall_mem_append.mpr ⟨hfa.1, hfb.1⟩
  · simp only [planDimension, List.map_append, List.prod_append, Option.getD_none, List.map_nil,
      List.prod_nil, div_one, mul_div_assoc]

theorem Denotes.quotient_append (ha : reg.Denotes a true d) (hb : reg.Denotes b false e) :
    reg.Denotes (a ++ ' ' :: b) true (d / e) := by
  obtain ⟨⟨ts, ds⟩, hra, hslash, hfa, rfl⟩ := ha
  obtain ⟨ds, rfl⟩ := Option.isSome_iff_exists.mp hslash
  obtain ⟨⟨us, none'⟩, hrb, hslash, hfb, rfl⟩ := hb
  obtain rfl : none' = none := by simpa using hslash
  rw [factors_terms] at hfa hfb
  refine ⟨_, hra.quotient_append hrb, rfl, factors_terms.mpr ⟨hfa.1, ?_⟩, ?_⟩
  · exact List.forall_mem_append.mpr ⟨hfa.2, hfb.1⟩
  · simp only [planDimension, List.map_append, List.prod_append, Option.getD_none, List.map_nil,
      List.prod_nil, div_one, Option.getD_some, div_div]

theorem Denotes.over (ha : reg.Denotes a false d) (hb : reg.Denotes b false e) :
    reg.Denotes (a ++ ' ' :: '/' :: ' ' :: b) true (d / e) := by
  obtain ⟨⟨ts, none₁⟩, hra, hslash, hfa, rfl⟩ := ha
  obtain rfl : none₁ = none := by simpa using hslash
  obtain ⟨⟨us, none₂⟩, hrb, hslash, hfb, rfl⟩ := hb
  obtain rfl : none₂ = none := by simpa using hslash
  rw [factors_terms] at hfa hfb
  refine ⟨_, hra.over hrb, rfl, factors_terms.mpr ⟨hfa.1, hfb.1⟩, ?_⟩
  simp only [planDimension, Option.getD_none, List.map_nil, List.prod_nil, div_one,
    Option.getD_some]

/-! ## Powers -/

/-- The dimension that the last term brings to a unit string. -/
def lastDimension (reg : Registry α) (unit : String) : Dimension :=
  match Plan.read unit with
  | .error _ => 1
  | .ok p =>
    match p.terms.getLast? with
    | none => 1
    | some t => reg.termDimension t

/-- The power does not matter for what a term resolves to. -/
theorem Factors.withPower {t : Term} (h : reg.Factors t) {n : Int}
    (hn : n.natAbs < Number.integerLimit) : reg.Factors { t with power := n } := by
  obtain ⟨factor, e, ⟨hr, hu⟩, ho, -⟩ := h
  exact ⟨factor, e, ⟨hr, hu⟩, ho, Or.inr hn⟩

theorem termDimension_withPower (reg : Registry α) {t : Bool × Term} (h : t.2.power = 1) (n : Int) :
    reg.termDimension (t.1, { t.2 with power := n }) =
      reg.termDimension t * reg.termDimension t ^ (n - 1) := by
  have hunit : reg.unitDimension { t.2 with power := n } = reg.unitDimension t.2 := rfl
  rw [← zpow_one_add, add_sub_cancel]
  simp only [termDimension, hunit, h, zpow_one]
  split
  · rw [inv_zpow]
  · rfl

/-- **A power behind a text** raises the dimension of its last term only. -/
theorem denotes_raise {unit : String} (hread : Plan.read unit = .ok p)
    (hfactors : ∀ t ∈ p.terms, reg.Factors t.2)
    (htakes : Term.takesPower (tail Plan.isBreak unit.toList) = true) {n : Nat} (hpos : 0 < n)
    (hn : n < 10 ^ Term.digitLimit) (hlimit : n < Number.integerLimit) :
    reg.Denotes (unit.toList ++ '^' :: Nat.toDigits 10 n) p.denominator.isSome
      (reg.planDimension p * reg.lastDimension unit ^ ((n : Int) - 1)) := by
  obtain ⟨p', before, t, hr, hslash, hone, hterms, hterms'⟩ :=
    (Plan.read_ok.mp hread).raise htakes hpos hn
  have hlast : reg.lastDimension unit = reg.termDimension t := by
    rw [lastDimension, hread]
    simp only [hterms, List.getLast?_concat]
  refine ⟨p', hr, hslash, ?_, ?_⟩
  · rw [hterms] at hfactors
    obtain ⟨hbefore, ht⟩ := List.forall_mem_append.mp hfactors
    rw [hterms']
    refine List.forall_mem_append.mpr ⟨hbefore, List.forall_mem_singleton.mpr ?_⟩
    exact (ht t List.mem_cons_self).withPower (by simpa using hlimit)
  · rw [← prod_termDimension, ← prod_termDimension, hterms, hterms', hlast, List.map_append,
      List.map_append, List.prod_append, List.prod_append, List.map_singleton, List.map_singleton,
      List.prod_singleton, List.prod_singleton, termDimension_withPower reg hone, mul_assoc]

/-! ## Unit strings -/

variable [Scalar.Grounded α]

theorem Denotes.parse (h : reg.Denotes text.toList slash d) :
    ∃ q x, reg.parse text = .ok q ∧ q.Single x d ∧ q.offset = 0 := by
  obtain ⟨p, hread, -, hfactors, rfl⟩ := h
  obtain ⟨q, hq, hs, hoff⟩ := evaluate_compound text hfactors
  exact ⟨q, _, (parse_eq_evaluate (Plan.read_ok.mpr hread) reg).trans hq, hs, hoff⟩

/-- A unit string that stands for something without an offset is blank, and so the number one, or
a product of terms without offsets. -/
theorem denotes_of_parse {q : Quantity α} (h : reg.parse text = .ok q)
    (ho : q.hasOffset = false) :
    (text.toList.all Text.isBlank = true ∧ q = .unity) ∨
      ∃ p, Plan.read text = .ok p ∧ (∀ t ∈ p.terms, reg.Factors t.2) ∧
        reg.planDimension p = q.dimension := by
  rcases parse_cases h with hblank | ⟨p, hread, ⟨hf, x, hs⟩ | ⟨t, e, hb, -, hoff⟩⟩
  · exact Or.inl hblank
  · exact Or.inr ⟨p, hread, hf, hs.dimension.symm⟩
  · have := hb.hasOffset
    rw [UnitEntry.hasOffset, ← hoff] at this
    exact absurd (ho.symm.trans this) (by simp)

end Quantities.Registry
