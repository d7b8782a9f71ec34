import Quantities.Proofs.Unit.Growth

/-!
# What becomes of unit strings in a larger registry

A registry only grows, but that does not settle what a unit string goes on to stand for. A symbol
without brackets that is no unit is guessed to be a prefix and a unit, and two things come before
the guess: the whole symbol, and a prefix of one character before one of two. What is inserted later
can be found there.

* `Captured`: between two registries, a term that was guessed in the first one got another reading,
  in one of these two ways.
* `Grows.resolve_cases`: a term goes on to resolve in a larger registry, to what it did, or to the
  reading by which it was captured. `isDirect` are the terms without a guess, which keep what they
  stand for (`Grows.parse`).
* **`parse_after`**: a unit string goes on to stand for the same after any insertions, unless one of
  its terms is captured.
* **`parse_captured`**: some are, so that a unit string that stood for something need not stand for
  anything any more.
-/

namespace Quantities

namespace Registry

section

variable {α : Type} [Scalar α] {reg reg' : Registry α} {t : Term} {r : α × UnitEntry α}
  {text : String}

/-- The term was guessed in the first registry, and in the second one it has the reading `r`, which
comes before the guess: its symbol has become the name of a unit, or its first character a prefix of
one. -/
inductive Captured (reg reg' : Registry α) (t : Term) : α × UnitEntry α → Prop
  | whole {e : UnitEntry α} (bare : t.bracket = none) (guessed : reg.lookupUnit t.symbol = none)
      (h : reg'.lookupUnit t.symbol = some e) : Captured reg reg' t (1, e)
  | first {r : α × UnitEntry α} (bare : t.bracket = none)
      (guessed : reg'.lookupUnit t.symbol = none) (unsplit : reg.split? t.symbol 1 = none)
      (h : reg'.split? t.symbol 1 = some r) : Captured reg reg' t r

/-! ## Parts of a term -/

omit [Scalar α] in
theorem Grows.lookupUnit {e : UnitEntry α} {symbol : String} (h : Grows reg reg')
    (he : reg.lookupUnit symbol = some e) : reg'.lookupUnit symbol = some e := h.name _ e he

theorem Grows.bracketFactor {x : α} {bracket : String} (h : Grows reg reg')
    (hx : reg.bracketFactor? bracket = some x) : reg'.bracketFactor? bracket = some x := by
  unfold bracketFactor? at hx ⊢
  by_cases hb : bracket = ""
  · rw [if_pos hb] at hx ⊢
    exact hx
  · rw [if_neg hb] at hx ⊢
    exact h.factor bracket x hx

omit [Scalar α] in
/-- A symbol that could be split goes on to be split alike. -/
theorem Grows.split {symbol : String} {n : Nat} (h : Grows reg reg')
    (hr : reg.split? symbol n = some r) : reg'.split? symbol n = some r := by
  unfold split? at hr ⊢
  simp only at hr ⊢
  split at hr
  · exact nomatch hr
  · rename_i hlen
    rw [if_neg hlen]
    split at hr
    · rename_i hx he
      rw [h.factor _ _ hx, h.lookupUnit he]
      exact hr
    · exact nomatch hr

/-! ## Terms -/

/-- A term in brackets is not captured. -/
theorem Captured.bare (h : Captured reg reg' t r) : t.bracket = none := by
  cases h with
  | whole bare _ _ => exact bare
  | first bare _ _ _ => exact bare

/-- A term that is no symbol later on is captured by a prefix of one character, before which it had
none. -/
theorem Captured.split (h : Captured reg reg' t r) (hnew : reg'.lookupUnit t.symbol = none) :
    reg.split? t.symbol 1 = none ∧ reg'.split? t.symbol 1 = some r := by
  cases h with
  | whole _ _ he => exact nomatch hnew.symm.trans he
  | first _ _ h1 h1' => exact ⟨h1, h1'⟩

/-- A term that was known by its symbol is not captured. -/
theorem Grows.not_captured_of_lookupUnit (h : Grows reg reg') {e : UnitEntry α}
    (he : reg.lookupUnit t.symbol = some e) : ¬ Captured reg reg' t r := by
  intro hcaptured
  cases hcaptured with
  | whole _ guessed _ => exact nomatch guessed.symm.trans he
  | first _ guessed _ _ => exact nomatch guessed.symm.trans (h.lookupUnit he)

/-- A symbol that stood for something goes on to do so. The readings are tried in the same order in
both registries, and those that the first one had before are found in the second one too. -/
theorem Grows.resolveBare_cases (h : Grows reg reg') (bare : t.bracket = none)
    (hr : reg.resolveBare? t.symbol = some r) :
    ((∀ r', ¬ Captured reg reg' t r') ∧ reg'.resolveBare? t.symbol = some r) ∨
      ∃ r', Captured reg reg' t r' ∧ reg'.resolveBare? t.symbol = some r' := by
  unfold resolveBare? at hr ⊢
  cases hold : reg.lookupUnit t.symbol with
  | some e =>
    rw [hold] at hr
    rw [h.lookupUnit hold]
    exact Or.inl ⟨fun r' => h.not_captured_of_lookupUnit hold, hr⟩
  | none =>
    rw [hold] at hr
    cases hnew : reg'.lookupUnit t.symbol with
    | some e => exact Or.inr ⟨_, .whole bare hold hnew, rfl⟩
    | none =>
      simp only at hr ⊢
      cases h1 : reg.split? t.symbol 1 with
      | some r₁ =>
        rw [h1] at hr
        rw [h.split h1]
        exact Or.inl ⟨fun r' hc => (nomatch h1.symm.trans (hc.split hnew).1), hr⟩
      | none =>
        rw [h1] at hr
        cases h1' : reg'.split? t.symbol 1 with
        | some r' => exact Or.inr ⟨r', .first bare hnew h1 h1', rfl⟩
        | none =>
          exact Or.inl ⟨fun r' hc => (nomatch h1'.symm.trans (hc.split hnew).2), h.split hr⟩

/-- **A term goes on to resolve**, to what it did unless it is captured, and else to what it is
captured by. -/
theorem Grows.resolve_cases (h : Grows reg reg') (hr : reg.resolve text t = .ok r) :
    ((∀ r', ¬ Captured reg reg' t r') ∧ reg'.resolve text t = .ok r) ∨
      ∃ r', Captured reg reg' t r' ∧ reg'.resolve text t = .ok r' := by
  rcases resolve_ok.mp hr with ⟨bare, hr⟩ | ⟨bracket, hb, hx, he⟩
  · rcases h.resolveBare_cases bare hr with ⟨hfree, hr'⟩ | ⟨r', hcaptured, hr'⟩
    · exact Or.inl ⟨hfree, resolve_ok.mpr (Or.inl ⟨bare, hr'⟩)⟩
    · exact Or.inr ⟨r', hcaptured, resolve_ok.mpr (Or.inl ⟨bare, hr'⟩)⟩
  · refine Or.inl ⟨fun r' hcaptured => (nomatch hcaptured.bare.symm.trans hb), ?_⟩
    exact resolve_ok.mpr (Or.inr ⟨bracket, hb, h.bracketFactor hx, h.lookupUnit he⟩)

/-- Does a term resolve without a prefix being guessed? -/
def isDirect (reg : Registry α) (t : Term) : Bool :=
  t.bracket.isSome || (reg.lookupUnit t.symbol).isSome

/-- A term without a guess is not captured. -/
theorem Grows.not_captured_of_isDirect (h : Grows reg reg') (hdirect : reg.isDirect t = true) :
    ¬ Captured reg reg' t r := by
  intro hcaptured
  rw [isDirect, hcaptured.bare, Option.isSome_none, Bool.false_or] at hdirect
  obtain ⟨e, he⟩ := Option.isSome_iff_exists.mp hdirect
  exact h.not_captured_of_lookupUnit he hcaptured

/-! ## Unit strings -/

/-- A unit string without captured terms stands for the same in a larger registry. -/
theorem Grows.parse_of_not_captured [Scalar.Grounded α] (h : Grows reg reg') {p : Plan}
    {q : Quantity α} (hread : Plan.read text = .ok p)
    (hfree : ∀ t ∈ p.terms, ∀ r, ¬ Captured reg reg' t.2 r) (hq : reg.parse text = .ok q) :
    reg'.parse text = .ok q := by
  obtain ⟨known, -⟩ := (evaluates reg hread).ok_iff.mp ⟨q, hq⟩
  rw [parse_eq_evaluate hread] at hq ⊢
  rw [← hq]
  refine evaluate_congr fun t ht => ?_
  obtain ⟨factor, e, hk⟩ := known t ht
  rcases h.resolve_cases (hk.resolve text) with ⟨-, hr⟩ | ⟨r', hcaptured, -⟩
  · rw [hk.resolve, hr]
  · exact absurd hcaptured (hfree t ht r')

/-- A unit string that resolves without guesses stands for the same in a larger registry. -/
theorem Grows.parse [Scalar.Grounded α] (h : Grows reg reg') {p : Plan} {q : Quantity α}
    (hread : Plan.read text = .ok p) (hdirect : ∀ t ∈ p.terms, reg.isDirect t.2 = true)
    (hq : reg.parse text = .ok q) : reg'.parse text = .ok q :=
  h.parse_of_not_captured hread (fun t ht _ => h.not_captured_of_isDirect (hdirect t ht)) hq

end

/-- **What becomes of a unit string.** After any calls its terms go on to resolve: to what they did,
or to a reading by which they are captured. While none of them is captured, the unit string stands
for the same quantity. -/
theorem parse_after {reg : Registry Float} {text : String} {q : Quantity Float}
    (h : reg.parse text = .ok q) (calls : List Call) :
    (∀ p, Plan.read text = .ok p → ∀ t ∈ p.terms, ∃ r, reg.resolve text t.2 = .ok r ∧
      (((∀ r', ¬ Captured reg (calls.foldl after reg) t.2 r') ∧
          (calls.foldl after reg).resolve text t.2 = .ok r) ∨
        ∃ r', Captured reg (calls.foldl after reg) t.2 r' ∧
          (calls.foldl after reg).resolve text t.2 = .ok r')) ∧
    ((∀ p, Plan.read text = .ok p → ∀ t ∈ p.terms, ∀ r,
        ¬ Captured reg (calls.foldl after reg) t.2 r) →
      (calls.foldl after reg).parse text = .ok q) := by
  have hgrows := grows_run calls reg
  refine ⟨fun p hread t ht => ?_, fun hfree => ?_⟩
  · obtain ⟨known, -⟩ := (evaluates reg hread).ok_iff.mp ⟨q, h⟩
    obtain ⟨factor, e, hk⟩ := known t ht
    exact ⟨_, hk.resolve text, hgrows.resolve_cases (hk.resolve text)⟩
  · rcases parse_cases h with ⟨hblank, rfl⟩ | ⟨p, hread, -⟩
    · unfold parse
      rw [if_pos hblank]
    · exact hgrows.parse_of_not_captured hread (hfree p hread) h

/-- A unit string in brackets, beside a definition that captures the same one without brackets. -/
theorem parse_after_kilometre :
    let reg : Registry Float := .standard
    let calls : List Call := [.define (.text "km") (.integer 1) (.text "K") (.integer 10)]
    let p : Plan := ⟨[⟨some "k", "m", 1⟩], some [⟨none, "s", 1⟩]⟩
    reg.parse "[k]m / s" = .ok ⟨.scalar 1000, Dimension.velocity, 0⟩ ∧
      Plan.read "[k]m / s" = .ok p ∧
      (∀ t ∈ p.terms, ∃ r, reg.resolve "[k]m / s" t.2 = .ok r ∧
        (((∀ r', ¬ Captured reg (calls.foldl after reg) t.2 r') ∧
            (calls.foldl after reg).resolve "[k]m / s" t.2 = .ok r) ∨
          ∃ r', Captured reg (calls.foldl after reg) t.2 r' ∧
            (calls.foldl after reg).resolve "[k]m / s" t.2 = .ok r')) ∧
      (calls.foldl after reg).parse "[k]m / s" = .ok ⟨.scalar 1000, Dimension.velocity, 0⟩ := by
  intro reg calls p
  have hq : reg.parse "[k]m / s" = .ok ⟨.scalar 1000, Dimension.velocity, 0⟩ := by decide +kernel
  have hread : Plan.read "[k]m / s" = .ok p := by decide +kernel
  have hdirect : ∀ t ∈ p.terms, reg.isDirect t.2 = true := by decide +kernel
  refine ⟨hq, hread, (parse_after hq calls).1 p hread, (parse_after hq calls).2 ?_⟩
  intro p' hread' t ht r
  obtain rfl := Except.ok.inj (hread.symm.trans hread')
  exact (grows_run calls reg).not_captured_of_isDirect (hdirect t ht)

/-- **Unit strings can be captured.** One that stands for something need not stand for anything
after a definition. -/
theorem parse_captured :
    let reg : Registry Float := .standard
    let c : Call := .define (.text "km") (.integer 1) (.text "K") (.integer 10)
    reg.parse "km / s" = .ok ⟨.scalar 1000, Dimension.velocity, 0⟩ ∧
      (reg.call c).2 = .ok () ∧
      ([c].foldl after reg).parse "km / s" = .error (.offsetInCompound "km" "km / s") := by
  decide +kernel

end Registry

end Quantities
