import Quantities.Proofs.Text.Words
import Quantities.Proofs.Unit.Term
import Quantities.Unit.Standard

/-!
# What a unit string stands for

The terms of a plan are multiplied from the left, and the product is single at every moment.

* `multiplyTerm_ok` is one step of the running product, `product_ok` a whole product, and
  `product_error` a product in which a term fails.
* `Compound` and `Bare`: the two kinds of plan that stand for something. `plan_cases` says that
  every plan is a compound, or a bare unit with an offset, or has a first term that fails, and
  `parse_cases` what this means for a unit string that stands for something.

Main result:
* **`parse_of_read`**: a unit string stands for something exactly when its plan is known and of one
  of the two kinds. A compound plan stands for the product of its units without an offset, over
  exact numbers with the product of the factors and scales; a bare unit with an offset stands for
  itself; and in all other cases the first term in the order of the text that fails decides the
  failure.
-/

namespace Quantities.Registry

variable {α : Type} [Scalar α] [Scalar.Grounded α] {reg : Registry α} {text : String} {t : Term}
  {e : UnitEntry α} {x : α} {d : Dimension}

/-! ## The running product -/

/-- The product so far, with one more term. -/
def multiplyTerm (reg : Registry α) (text : String) (acc : Quantity α) (t : Bool × Term) :
    Outcome (Quantity α) := do
  acc.multiply (← reg.termQuantity text t.1 t.2)

omit [Scalar.Grounded α] in
theorem product_eq (reg : Registry α) (text : String) (terms : List (Bool × Term)) :
    reg.product text terms = terms.foldlM (reg.multiplyTerm text) .unity := rfl

/-- A term that can be part of a product keeps the product single and without an offset. -/
theorem multiplyTerm_ok {acc : Quantity α} {t : Bool × Term} (hacc : acc.Single x d)
    (h : reg.Factors t.2) (text : String) : ∃ q, reg.multiplyTerm text acc t = .ok q ∧
      q.Single (x * reg.termValue t) (d * reg.termDimension t) ∧ q.offset = 0 := by
  obtain ⟨r, hr, hs⟩ := h.termQuantity text t.1
  obtain ⟨q, hq, hsq, hoff⟩ := hacc.multiply hs
  refine ⟨q, ?_, hsq, hoff⟩
  rw [multiplyTerm, hr]
  exact hq

/-- So do any number of terms. -/
theorem foldlM_multiplyTerm_ok (text : String) :
    ∀ {terms : List (Bool × Term)} {acc : Quantity α} {x : α} {d : Dimension},
      (∀ t ∈ terms, reg.Factors t.2) → acc.Single x d → acc.offset = 0 →
        ∃ q, terms.foldlM (reg.multiplyTerm text) acc = .ok q ∧
          q.Single ((terms.map reg.termValue).foldl (· * ·) x)
            (d * (terms.map reg.termDimension).prod) ∧ q.offset = 0
  | [], acc, x, d, _, hacc, hoff => ⟨acc, rfl, by simpa using hacc, hoff⟩
  | t :: terms, acc, x, d, h, hacc, hoff => by
    obtain ⟨q, hq, hs, hoff⟩ := multiplyTerm_ok hacc (h t List.mem_cons_self) text
    have ih := foldlM_multiplyTerm_ok text (fun s hs => h s (List.mem_cons_of_mem t hs)) hs hoff
    rw [List.foldlM_cons, hq, List.map_cons, List.foldl_cons, List.map_cons, List.prod_cons,
      ← mul_assoc]
    exact ih

/-- The product of terms that can all be part of a product. -/
theorem product_ok {terms : List (Bool × Term)} (text : String)
    (h : ∀ t ∈ terms, reg.Factors t.2) : ∃ q, reg.product text terms = .ok q ∧
      q.Single ((terms.map reg.termValue).foldl (· * ·) 1)
        (terms.map reg.termDimension).prod ∧ q.offset = 0 := by
  rw [product_eq, ← one_mul (terms.map reg.termDimension).prod]
  exact foldlM_multiplyTerm_ok text h Quantity.single_unity rfl

/-- The first term that fails decides the failure of a product. -/
theorem product_error {before after : List (Bool × Term)} {t : Bool × Term} {f : Failure}
    (hbefore : ∀ s ∈ before, reg.Factors s.2) (h : reg.TermFails text t.2 f) :
    reg.product text (before ++ t :: after) = .error f := by
  obtain ⟨q, hq, -, -⟩ := product_ok text hbefore
  rw [product_eq] at hq ⊢
  rw [List.foldlM_append, hq, Outcome.bind_error]
  refine Or.inr ⟨q, rfl, ?_⟩
  rw [List.foldlM_cons, multiplyTerm, h.eq]
  rfl

omit [Scalar.Grounded α] in
/-- Either all terms can be part of a product, or one is the first that fails. -/
theorem factors_or_first_fails (reg : Registry α) (text : String) :
    ∀ terms : List (Bool × Term), (∀ t ∈ terms, reg.Factors t.2) ∨
      ∃ before t after f, terms = before ++ t :: after ∧ (∀ s ∈ before, reg.Factors s.2) ∧
        reg.TermFails text t.2 f
  | [] => Or.inl (by simp)
  | t :: terms => by
    rcases reg.factors_or_termFails text t.2 with ht | ⟨f, hf⟩
    · rcases factors_or_first_fails reg text terms with h | ⟨before, s, after, f, rfl, hb, hf⟩
      · exact Or.inl (List.forall_mem_cons.mpr ⟨ht, h⟩)
      · exact Or.inr ⟨t :: before, s, after, f, rfl, List.forall_mem_cons.mpr ⟨ht, hb⟩, hf⟩
    · exact Or.inr ⟨[], t, terms, f, rfl, by simp, hf⟩

/-! ## Plans -/

/-- All terms of a plan are known: they resolve, to units of which quantities can be made. -/
def AllKnown (reg : Registry α) (p : Plan) : Prop :=
  ∀ t ∈ p.terms, ∃ factor e, reg.Knows t.2 factor e

/-- No unit of a plan has an offset, and all powers are in range. -/
def Compound (reg : Registry α) (p : Plan) : Prop :=
  ∀ t ∈ p.terms, (∀ factor e, reg.Knows t.2 factor e → e.hasOffset = false) ∧ t.2.InRange

/-- A plan is one unit, with the factor one and the power one. -/
def Bare (reg : Registry α) (p : Plan) : Prop :=
  ∃ t, p = ⟨[t], none⟩ ∧ t.power = 1 ∧ ∀ factor e, reg.Knows t factor e → (factor == 1) = true

/-- A plan is one unit with an offset, with the factor one and the power one. -/
structure BareOffset (reg : Registry α) (p : Plan) (t : Term) (e : UnitEntry α) : Prop where
  plan : p = ⟨[t], none⟩
  power : t.power = 1
  known : ∃ factor, reg.Knows t factor e ∧ (factor == 1) = true
  hasOffset : e.hasOffset = true

/-- The dimension of a plan: the product of the units before the slash with their powers, divided
by the same of those behind it. -/
def planDimension (reg : Registry α) (p : Plan) : Dimension :=
  (p.numerator.map fun t => reg.unitDimension t ^ t.power).prod /
    ((p.denominator.getD []).map fun t => reg.unitDimension t ^ t.power).prod

omit [Scalar.Grounded α] in
theorem prod_termDimension (reg : Registry α) (p : Plan) :
    (p.terms.map reg.termDimension).prod = reg.planDimension p := by
  rw [Plan.terms, List.map_append, List.prod_append, planDimension, div_eq_mul_inv, List.prod_inv,
    List.map_map, List.map_map, List.map_map]
  rfl

omit [Scalar.Grounded α] in
theorem factors_of_compound {p : Plan} (known : reg.AllKnown p) (compound : reg.Compound p) :
    ∀ t ∈ p.terms, reg.Factors t.2 := fun t ht => by
  obtain ⟨factor, e, hk⟩ := known t ht
  exact ⟨factor, e, hk, (compound t ht).1 factor e hk, (compound t ht).2⟩

omit [Scalar.Grounded α] in
theorem compound_of_factors {p : Plan} (h : ∀ t ∈ p.terms, reg.Factors t.2) :
    reg.AllKnown p ∧ reg.Compound p := by
  refine ⟨fun t ht => ?_, fun t ht => ?_⟩ <;> obtain ⟨factor, e, hk, ho, hn⟩ := h t ht
  · exact ⟨factor, e, hk⟩
  · refine ⟨fun factor' e' hk' => ?_, hn⟩
    obtain ⟨-, rfl⟩ := hk.unique hk'
    exact ho

/-! ## The evaluation of a plan -/

omit [Scalar.Grounded α] in
theorem evaluate_singleton (reg : Registry α) (text : String) (t : Term) :
    reg.evaluate text ⟨[t], none⟩ = reg.resolve text t >>= fun r =>
      if r.2.hasOffset && r.1 == 1 && t.power == 1 then r.2.quantity
      else reg.product text [(false, t)] := rfl

/-- A compound plan stands for its product. -/
theorem evaluate_compound {p : Plan} (text : String) (h : ∀ t ∈ p.terms, reg.Factors t.2) :
    ∃ q, reg.evaluate text p = .ok q ∧
      q.Single ((p.terms.map reg.termValue).foldl (· * ·) 1) (reg.planDimension p) ∧
      q.offset = 0 := by
  rw [← prod_termDimension]
  have hproduct := product_ok text h
  unfold evaluate
  split
  · rename_i t
    obtain ⟨factor, e, known, ho, -⟩ := h (false, t) (by simp [Plan.terms])
    rw [known.resolve]
    simp only [bind, Except.bind, ho, Bool.false_and, Bool.false_eq_true, if_false]
    exact hproduct
  · exact hproduct

omit [Scalar.Grounded α] in
/-- A bare unit with an offset stands for itself. -/
theorem evaluate_bareOffset {p : Plan} (text : String) (h : reg.BareOffset p t e) :
    ∃ q, reg.evaluate text p = .ok q ∧ q.magnitude.members = [e.scale] ∧
      q.dimension = e.dimension ∧ q.offset = e.offset := by
  obtain ⟨rfl, hpower, ⟨factor, known, hfactor⟩, ho⟩ := h
  obtain ⟨one, hone⟩ := known.usable
  refine ⟨one, ?_, UnitEntry.quantity_ok hone⟩
  rw [evaluate_singleton, known.resolve, ← hone, hpower]
  simp [bind, Except.bind, ho, hfactor]

/-- In any other plan the first term that fails decides the failure. -/
theorem evaluate_error {p : Plan} {before after : List (Bool × Term)} {t : Bool × Term}
    {f : Failure} (hp : p.terms = before ++ t :: after) (hbefore : ∀ s ∈ before, reg.Factors s.2)
    (h : reg.TermFails text t.2 f) (hbare : ∀ t e, ¬ reg.BareOffset p t e) :
    reg.evaluate text p = .error f := by
  have hproduct : reg.product text (before ++ t :: after) = .error f := product_error hbefore h
  rw [← hp] at hproduct
  unfold evaluate
  split
  · rename_i t'
    obtain rfl : (false, t') = t := by
      cases before with
      | nil => exact (List.cons.inj hp).1
      | cons b bs => simp [Plan.terms] at hp
    cases h with
    | unresolved h => rw [h]; rfl
    | unusable resolve h =>
      rw [resolve]
      simp only [bind, Except.bind]
      split
      · exact h
      · exact hproduct
    | @offset factor e known ho =>
      rw [known.resolve]
      simp only [bind, Except.bind]
      split
      · rename_i hc
        simp only [Bool.and_eq_true, beq_iff_eq] at hc
        exact absurd ⟨rfl, hc.2, ⟨factor, known, hc.1.2⟩, ho⟩ (hbare t' e)
      · exact hproduct
    | outOfRange known free hn =>
      rw [known.resolve]
      simp only [bind, Except.bind, free, Bool.false_and, Bool.false_eq_true, if_false]
      exact hproduct
  · exact hproduct

/-- A plan is a compound, or a bare unit with an offset, or some term is the first that fails. -/
theorem plan_cases (reg : Registry α) (text : String) (p : Plan) :
    (∀ t ∈ p.terms, reg.Factors t.2) ∨ (∃ t e, reg.BareOffset p t e) ∨
      ∃ before t after f, p.terms = before ++ t :: after ∧ (∀ s ∈ before, reg.Factors s.2) ∧
        reg.TermFails text t.2 f ∧ reg.evaluate text p = .error f := by
  rcases reg.factors_or_first_fails text p.terms with h | ⟨before, t, after, f, hp, hb, hf⟩
  · exact Or.inl h
  · by_cases hbare : ∃ t e, reg.BareOffset p t e
    · exact Or.inr (Or.inl hbare)
    · have hbare' : ∀ t e, ¬ reg.BareOffset p t e := fun t e h => hbare ⟨t, e, h⟩
      exact Or.inr (Or.inr ⟨before, t, after, f, hp, hb, hf, evaluate_error hp hb hf hbare'⟩)

/-! ## The evaluation of a unit string -/

omit [Scalar.Grounded α] in
/-- A text that says something is not blank. -/
theorem not_blank_of_read {p : Plan} (h : Plan.read text = .ok p) :
    text.toList.all Text.isBlank = false := by
  by_contra hblank
  rw [Bool.not_eq_false, List.all_eq_true] at hblank
  have hslash : text.toList.splitOn '/' = [text.toList] :=
    List.splitOn_eq_singleton fun hs => absurd (hblank _ hs) (by decide)
  have hwords : Text.words text.toList = [] := by
    rw [Text.words_eq_pieces]
    exact Text.pieces_eq_nil hblank
  unfold Plan.read at h
  rw [hslash] at h
  simp only [Plan.readSection, hwords] at h
  split at h
  · exact nomatch h
  · exact nomatch h

omit [Scalar.Grounded α] in
theorem parse_eq_evaluate {p : Plan} (h : Plan.read text = .ok p) (reg : Registry α) :
    reg.parse text = reg.evaluate text p := by
  rw [parse, not_blank_of_read h, h]
  rfl

/-- A unit string that stands for something is blank, or a compound, or a bare unit with an
offset. -/
theorem parse_cases {q : Quantity α} (h : reg.parse text = .ok q) :
    (text.toList.all Text.isBlank = true ∧ q = .unity) ∨ ∃ p, Plan.read text = .ok p ∧
      (((∀ t ∈ p.terms, reg.Factors t.2) ∧ ∃ x, q.Single x (reg.planDimension p)) ∨
        ∃ t e, reg.BareOffset p t e ∧ q.magnitude.members = [e.scale] ∧ q.offset = e.offset) := by
  rw [parse] at h
  split at h
  · rename_i hblank
    exact Or.inl ⟨hblank, (Except.ok.inj h).symm⟩
  · obtain ⟨p, hread, heval⟩ := Outcome.bind_ok.mp h
    refine Or.inr ⟨p, hread, ?_⟩
    rcases reg.plan_cases text p with hf | ⟨t, e, hb⟩ | ⟨_, _, _, f, _, _, _, herror⟩
    · obtain ⟨q', hq', hs, -⟩ := evaluate_compound text hf
      obtain rfl := Except.ok.inj (heval.symm.trans hq')
      exact Or.inl ⟨hf, _, hs⟩
    · obtain ⟨q', hq', hm, -, hoff⟩ := evaluate_bareOffset text hb
      obtain rfl := Except.ok.inj (heval.symm.trans hq')
      exact Or.inr ⟨t, e, hb, hm, hoff⟩
    · rw [herror] at heval
      exact nomatch heval

/-- A unit string stands for one number. -/
theorem parse_members {q : Quantity α} (h : reg.parse text = .ok q) :
    ∃ x, q.magnitude.members = [x] := by
  rcases parse_cases h with ⟨-, rfl⟩ | ⟨p, -, ⟨-, x, hs⟩ | ⟨t, e, -, hm, -⟩⟩
  · exact ⟨1, rfl⟩
  · exact ⟨x, hs.members⟩
  · exact ⟨e.scale, hm⟩

omit [Scalar.Grounded α] in
theorem foldlM_multiplyTerm_congr {reg' : Registry α} :
    ∀ {terms : List (Bool × Term)} (acc : Quantity α),
      (∀ t ∈ terms, reg'.resolve text t.2 = reg.resolve text t.2) →
        terms.foldlM (reg'.multiplyTerm text) acc = terms.foldlM (reg.multiplyTerm text) acc
  | [], _, _ => rfl
  | t :: terms, acc, h => by
    have hstep : reg'.multiplyTerm text acc t = reg.multiplyTerm text acc t := by
      unfold multiplyTerm termQuantity
      rw [h t List.mem_cons_self]
    rw [List.foldlM_cons, List.foldlM_cons, hstep]
    refine congrArg _ (funext fun q => ?_)
    exact foldlM_multiplyTerm_congr q fun s hs => h s (List.mem_cons_of_mem t hs)

omit [Scalar.Grounded α] in
/-- A registry matters for a plan only by what the terms resolve to. -/
theorem evaluate_congr {reg' : Registry α} {p : Plan}
    (h : ∀ t ∈ p.terms, reg'.resolve text t.2 = reg.resolve text t.2) :
    reg'.evaluate text p = reg.evaluate text p := by
  have hproduct : reg'.product text p.terms = reg.product text p.terms :=
    foldlM_multiplyTerm_congr .unity h
  unfold evaluate
  split
  · rw [h _ List.mem_cons_self, hproduct]
  · exact hproduct

/-- What a unit string with the plan `p` stands for. -/
structure Evaluates (reg : Registry α) (text : String) (p : Plan) : Prop where
  /-- It stands for something when all terms are known and the plan is of one of the two kinds. -/
  ok_iff : (∃ q, reg.parse text = .ok q) ↔ reg.AllKnown p ∧ (reg.Compound p ∨ reg.Bare p)
  /-- A compound plan has no offset, and the dimension of its product. -/
  compound : reg.AllKnown p → reg.Compound p →
    ∃ q, reg.parse text = .ok q ∧ q.offset = 0 ∧ q.dimension = reg.planDimension p
  /-- A bare unit with an offset stands for itself. -/
  bare : ∀ t e, reg.BareOffset p t e → ∃ q, reg.parse text = .ok q ∧
    q.magnitude.members = [e.scale] ∧ q.dimension = e.dimension ∧ q.offset = e.offset
  /-- Otherwise the first term that fails decides. -/
  error : ¬ (reg.AllKnown p ∧ (reg.Compound p ∨ reg.Bare p)) →
    ∃ before t after f, p.terms = before ++ t :: after ∧ (∀ s ∈ before, reg.Factors s.2) ∧
      reg.TermFails text t.2 f ∧ reg.parse text = .error f

omit [Scalar.Grounded α] in
theorem BareOffset.allKnown {p : Plan} (h : reg.BareOffset p t e) :
    reg.AllKnown p ∧ reg.Bare p := by
  obtain ⟨rfl, hpower, ⟨factor, known, hfactor⟩, -⟩ := h
  refine ⟨?_, t, rfl, hpower, ?_⟩
  · rintro ⟨divided, s⟩ hs
    obtain ⟨rfl, rfl⟩ : divided = false ∧ s = t := by simpa [Plan.terms] using hs
    exact ⟨factor, e, known⟩
  · intro factor' e' known'
    obtain ⟨rfl, -⟩ := known.unique known'
    exact hfactor

omit [Scalar.Grounded α] in
/-- A bare unit that is known has an offset, or can be part of a product. -/
theorem Bare.cases {p : Plan} (h : reg.Bare p) (known : reg.AllKnown p) :
    (∃ t e, reg.BareOffset p t e) ∨ ∀ t ∈ p.terms, reg.Factors t.2 := by
  obtain ⟨t, rfl, hpower, hfactor⟩ := h
  obtain ⟨factor, e, hk⟩ := known (false, t) (by simp [Plan.terms])
  cases ho : e.hasOffset with
  | true => exact Or.inl ⟨t, e, rfl, hpower, ⟨factor, hk, hfactor factor e hk⟩, ho⟩
  | false =>
    refine Or.inr ?_
    rintro ⟨divided, s⟩ hs
    obtain ⟨rfl, rfl⟩ : divided = false ∧ s = t := by simpa [Plan.terms] using hs
    exact ⟨factor, e, hk, ho, Or.inl hpower⟩

theorem evaluates (reg : Registry α) {p : Plan} (h : Plan.read text = .ok p) :
    reg.Evaluates text p := by
  have hparse := parse_eq_evaluate h reg
  have hcompound : (∀ t ∈ p.terms, reg.Factors t.2) →
      ∃ q, reg.parse text = .ok q ∧ q.offset = 0 ∧ q.dimension = reg.planDimension p := by
    intro hf
    obtain ⟨q, hq, hs, hoff⟩ := evaluate_compound text hf
    exact ⟨q, hparse.trans hq, hoff, hs.dimension⟩
  have hbare : ∀ t e, reg.BareOffset p t e → ∃ q, reg.parse text = .ok q ∧
      q.magnitude.members = [e.scale] ∧ q.dimension = e.dimension ∧ q.offset = e.offset := by
    intro t e hb
    rw [hparse]
    exact evaluate_bareOffset text hb
  have hcases := reg.plan_cases text p
  refine ⟨⟨?_, ?_⟩, fun known compound => ?_, hbare, fun hnot => ?_⟩
  · rintro ⟨q, hq⟩
    rcases hcases with hf | ⟨t, e, hb⟩ | ⟨_, _, _, f, _, _, _, herror⟩
    · exact ⟨(compound_of_factors hf).1, Or.inl (compound_of_factors hf).2⟩
    · exact ⟨hb.allKnown.1, Or.inr hb.allKnown.2⟩
    · rw [hparse, herror] at hq
      exact nomatch hq
  · rintro ⟨known, compound | bare⟩
    · obtain ⟨q, hq, -⟩ := hcompound (factors_of_compound known compound)
      exact ⟨q, hq⟩
    · rcases bare.cases known with ⟨t, e, hb⟩ | hf
      · obtain ⟨q, hq, -⟩ := hbare t e hb
        exact ⟨q, hq⟩
      · obtain ⟨q, hq, -⟩ := hcompound hf
        exact ⟨q, hq⟩
  · exact hcompound (factors_of_compound known compound)
  · rcases hcases with hf | ⟨t, e, hb⟩ | ⟨before, t, after, f, hp, hbefore, hfails, herror⟩
    · exact absurd ⟨(compound_of_factors hf).1, Or.inl (compound_of_factors hf).2⟩ hnot
    · exact absurd ⟨hb.allKnown.1, Or.inr hb.allKnown.2⟩ hnot
    · exact ⟨before, t, after, f, hp, hbefore, hfails, hparse.trans herror⟩

/-! ## Exact numbers -/

/-- The exact number that a unit with its factor and its power is worth. -/
def worth (reg : Registry ℚ) (t : Term) : ℚ :=
  match reg.resolve "" t with
  | .ok (factor, e) => (factor * e.scale) ^ t.power
  | .error _ => 1

theorem powerOf_eq (x : ℚ) (n : Int) : Quantity.powerOf x n = x ^ n := by
  unfold Quantity.powerOf
  split_ifs with h0 h1
  · rw [h0, zpow_zero]
  · rw [h1, zpow_one]
  · rfl

theorem factorValue_eq (factor scale : ℚ) (n : Int) (divided : Bool) :
    factorValue factor scale n divided =
      if divided then ((factor * scale) ^ n)⁻¹ else (factor * scale) ^ n := by
  have hscaled : (if factor != 1 then scale * factor else scale) = factor * scale := by
    split
    · exact mul_comm scale factor
    · rename_i h
      have h1 : factor = 1 := by simpa using h
      rw [h1, one_mul]
  unfold factorValue
  rw [hscaled, powerOf_eq, ← one_div]

theorem termValue_eq (reg : Registry ℚ) (t : Bool × Term) :
    reg.termValue t = if t.1 then (reg.worth t.2)⁻¹ else reg.worth t.2 := by
  unfold termValue worth
  cases reg.resolve "" t.2 with
  | ok r => exact factorValue_eq r.1 r.2.scale t.2.power t.1
  | error f => simp

/-- The product of the numbers of a plan is a quotient of two products. -/
theorem foldl_termValue (reg : Registry ℚ) (p : Plan) :
    (p.terms.map reg.termValue).foldl (· * ·) 1 =
      (p.numerator.map reg.worth).prod / ((p.denominator.getD []).map reg.worth).prod := by
  have hfold : (p.terms.map reg.termValue).foldl (· * ·) 1 = (p.terms.map reg.termValue).prod :=
    List.prod_eq_foldl.symm
  rw [hfold, Plan.terms, List.map_append, List.prod_append, div_eq_mul_inv, List.prod_inv,
    List.map_map, List.map_map, List.map_map]
  congr 2 <;> refine List.map_congr_left fun t _ => ?_ <;> simp [termValue_eq]

/-- **What a unit string stands for.** Let a unit string have the plan `p`. Over doubles and over
exact numbers it stands for something exactly when all terms are known and the plan is a compound
of units without offsets or a bare unit; `Evaluates` says what it is, and which failure there is
otherwise. Over exact numbers a compound is worth the product of its units with their factors and
powers, divided by that of the units behind the slash. -/
theorem parse_of_read (text : String) (p : Plan) (h : Plan.read text = .ok p) :
    (∀ reg : Registry Float, reg.Evaluates text p) ∧
      ∀ reg : Registry ℚ, reg.Evaluates text p ∧
        (reg.AllKnown p → reg.Compound p → ∃ q, reg.parse text = .ok q ∧ q.magnitude.members =
          [(p.numerator.map reg.worth).prod / ((p.denominator.getD []).map reg.worth).prod]) := by
  refine ⟨fun reg => evaluates reg h, fun reg => ⟨evaluates reg h, fun known compound => ?_⟩⟩
  obtain ⟨q, hq, hs, -⟩ := evaluate_compound text (factors_of_compound known compound)
  exact ⟨q, (parse_eq_evaluate h reg).trans hq, hs.members.trans (by rw [foldl_termValue])⟩

theorem parse_of_read_watt :
    let p : Plan := ⟨[⟨some "k", "g", 1⟩, ⟨none, "m", 2⟩], some [⟨none, "s", 3⟩]⟩
    let text := "[k]g m^2 / s^3"
    let reg : Registry ℚ := standard
    Plan.read text = .ok p ∧ (standard : Registry Float).Evaluates text p ∧
      reg.AllKnown p ∧ reg.Compound p ∧
        ∃ q, reg.parse text = .ok q ∧ q.magnitude.members =
          [[reg.worth ⟨some "k", "g", 1⟩, reg.worth ⟨none, "m", 2⟩].prod /
            [reg.worth ⟨none, "s", 3⟩].prod] := by
  intro p text reg
  have hread : Plan.read text = .ok p := by decide +kernel
  have hterms : ∀ t ∈ p.terms, ∃ r, reg.resolve "" t.2 = .ok r ∧
      ∃ one, r.2.quantity = .ok one ∧ r.2.hasOffset = false ∧ t.2.InRange := by
    decide +kernel
  have hfactors : ∀ t ∈ p.terms, reg.Factors t.2 := fun t ht => by
    obtain ⟨r, hr, one, hone, ho, hn⟩ := hterms t ht
    exact ⟨r.1, r.2, knows_of_resolve hr hone, ho, hn⟩
  obtain ⟨known, compound⟩ := compound_of_factors hfactors
  obtain ⟨hfloat, hexact⟩ := parse_of_read text p hread
  exact ⟨hread, hfloat _, known, compound, (hexact reg).2 known compound⟩

end Quantities.Registry
