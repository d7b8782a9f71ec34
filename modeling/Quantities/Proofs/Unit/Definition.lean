import Quantities.Proofs.Magnitude
import Quantities.Proofs.Unit.Consistency

/-!
# Units defined by others

A definition judges its symbol first, and then reads and judges what the symbol is defined to be.
Whatever is wrong, nothing is added; and where nothing is wrong, one unit is.

* `Derives` says which unit is defined by a number of other units and an offset, and `derivedUnit_ok`
  that this unit is what is made of them.
* `define_iff`: a definition succeeds exactly for a new symbol and for such a unit.
* `checkFree_error`: a symbol that is taken is refused for that, whatever else is wrong.

Main result:
* **`define_exactly`**: all of that for a definition by any values, with what becomes of the
  registry and of every look-up.
-/

namespace Quantities.Registry

variable {α : Type} [Scalar α] {reg reg' : Registry α} {symbol label : String}
  {magnitude : Outcome (Magnitude α)} {text : Outcome (Option String)} {offset : Outcome α}
  {e : UnitEntry α}

/-! ## The unit that is defined -/

/-- The unit `m` times one of a unit string without an offset. Its own offset is given in the new
unit, and stored in coherent units. -/
inductive Derives (reg : Registry α) (symbol : String) : Outcome (Magnitude α) →
    Outcome (Option String) → Outcome α → UnitEntry α → Prop
  | mk {m x o : α} {text : Option String} {q : Quantity α} (parse : reg.parseUnit text = .ok q)
      (one : q.magnitude = .scalar x) (free : q.hasOffset = false)
      (scale : Scalar.isFactor (m * x) = true) (offset : Scalar.isFinite (o * (m * x)) = true) :
      Derives reg symbol (.ok (.scalar m)) (.ok text) (.ok o)
        ⟨symbol, m * x, q.dimension, o * (m * x), .number⟩

theorem quantity_ok {q : Quantity α} {text : Option String} :
    reg.quantity magnitude text = .ok q ↔ ∃ u m x, reg.parseUnit text = .ok u ∧
      magnitude = .ok m ∧ Magnitude.combine (· * ·) m u.magnitude = .ok x ∧
        q = ⟨x, u.dimension, u.offset⟩ := by
  unfold quantity
  simp only [Outcome.bind_ok, Except.ok.injEq]
  constructor
  · rintro ⟨u, hu, m, hm, x, hx, rfl⟩
    exact ⟨u, m, x, hu, hm, hx, rfl⟩
  · rintro ⟨u, m, x, hu, hm, hx, rfl⟩
    exact ⟨u, hu, m, hm, x, hx, rfl⟩

/-- **What is made of a number of units and an offset**, and when. -/
theorem derivedUnit_ok : reg.derivedUnit symbol label magnitude text offset = .ok e ↔
    Derives reg symbol magnitude text offset e := by
  unfold derivedUnit
  constructor
  · intro h
    obtain ⟨t, ht, h⟩ := Outcome.bind_ok.mp h
    obtain ⟨q, hq, h⟩ := Outcome.bind_ok.mp h
    obtain ⟨u, m, x, hu, hm, hx, rfl⟩ := quantity_ok.mp hq
    cases x with
    | array xs => exact nomatch h
    | scalar z =>
      simp only at h
      obtain ⟨x, y, rfl, hy, rfl⟩ := Magnitude.combine_eq_scalar.mp hx
      split at h
      · exact nomatch h
      rename_i hfree
      obtain ⟨o, ho, h⟩ := Outcome.bind_ok.mp h
      obtain ⟨hscale, hoffset, rfl⟩ := UnitEntry.make_ok.mp h
      rw [ht, hm, ho]
      exact .mk hu hy (by simpa [Quantity.hasOffset] using hfree) hscale hoffset
  · rintro ⟨hu, hone, hfree, hscale, hoffset⟩
    rename_i m x o t u
    have hx : Magnitude.combine (· * ·) (.scalar m) u.magnitude = .ok (.scalar (m * x)) :=
      Magnitude.combine_eq_scalar.mpr ⟨m, x, rfl, hone, rfl⟩
    have hq : reg.quantity (.ok (.scalar m)) t = .ok ⟨.scalar (m * x), u.dimension, u.offset⟩ :=
      quantity_ok.mpr ⟨u, _, _, hu, rfl, hx, rfl⟩
    have hfree : Quantity.hasOffset ⟨.scalar (m * x), u.dimension, u.offset⟩ = false := hfree
    refine Outcome.bind_ok.mpr ⟨t, rfl, Outcome.bind_ok.mpr ⟨_, hq, ?_⟩⟩
    simp only
    rw [hfree]
    exact Outcome.bind_ok.mpr ⟨o, rfl, UnitEntry.make_ok.mpr ⟨hscale, hoffset, rfl⟩⟩

theorem Derives.symbol_eq (h : Derives reg symbol magnitude text offset e) : e.symbol = symbol := by
  cases h
  rfl

/-! ## The definition -/

/-- **When a definition succeeds**, and what the registry becomes. -/
theorem define_iff : reg.define symbol magnitude text offset = .ok (reg', e) ↔
    normalize symbol ≠ "" ∧ reg.IsFree (.text (normalize symbol)) ∧
      Derives reg (normalize symbol) magnitude text offset e ∧
        reg' = { reg with units := reg.units ++ [(normalize symbol, e)] } := by
  have hkey : ∀ e' : UnitEntry α, e'.symbol = normalize symbol →
      normalize e'.symbol = normalize symbol := fun e' he' => by rw [he', normalize_normalize]
  unfold define definition
  constructor
  · intro h
    obtain ⟨e', hdefinition, h⟩ := Outcome.bind_ok.mp h
    obtain ⟨reg'', hregister, h⟩ := Outcome.bind_ok.mp h
    obtain ⟨rfl, rfl⟩ := Prod.mk.inj (Except.ok.inj h)
    obtain ⟨_, hfree, hunit⟩ := Outcome.bind_ok.mp hdefinition
    have hderives := derivedUnit_ok.mp hunit
    obtain ⟨hne, -, rfl⟩ := register_ok.mp hregister
    rw [hkey e' hderives.symbol_eq] at hne ⊢
    refine ⟨hne, checkFree_ok.mp hfree, hderives, ?_⟩
    rw [← hderives.symbol_eq]
  · rintro ⟨hne, hfree, hderives, rfl⟩
    refine Outcome.bind_ok.mpr ⟨e, Outcome.bind_ok.mpr
      ⟨(), checkFree_ok.mpr hfree, derivedUnit_ok.mpr hderives⟩, ?_⟩
    refine Outcome.bind_ok.mpr ⟨_, register_ok.mpr ?_, rfl⟩
    rw [hkey e hderives.symbol_eq]
    refine ⟨hne, hfree, ?_⟩
    rw [← hderives.symbol_eq]

omit [Scalar α] in
/-- A name that is taken is refused with a failure of its own kind. -/
theorem checkFree_error {n : Name} (h : ¬ reg.IsFree n) :
    ∃ f, reg.checkFree n = .error f ∧ (f = .duplicateUnit n.shown ∨ f = .duplicateAlias n.shown) := by
  unfold checkFree
  split
  · exact ⟨_, rfl, Or.inl rfl⟩
  rename_i hunit
  split
  · exact ⟨_, rfl, Or.inr rfl⟩
  rename_i htarget
  exact absurd ⟨by simpa using hunit, by simpa using htarget⟩ h

omit [Scalar α] in
/-- A new unit is found by its symbol. -/
theorem IsFree.lookupUnit {s : String} (h : reg.IsFree (.text (normalize s))) (e : UnitEntry α) :
    lookupUnit { reg with units := reg.units ++ [(normalize s, e)] } (normalize s) = some e := by
  have htarget : target? { reg with units := reg.units ++ [(normalize s, e)] }
      (.text (normalize s)) = none := h.target
  have hstored : Name.normalized (.text (normalize s)) = .text (normalize s) :=
    congrArg Name.text (normalize_normalize s)
  have hunit : reg.units.lookup (normalize s) = none := h.unit
  unfold Registry.lookupUnit lookupName
  rw [hstored, htarget]
  refine Option.bind_eq_some_iff.mpr ⟨normalize s, rfl, ?_⟩
  rw [List.lookup_append, hunit, Option.none_or]
  exact List.lookup_cons_self

end Quantities.Registry

/-! ## Values -/

namespace Quantities.Value

theorem zeroName_ne_text {x : Float} {s : String} : naming.zeroName x ≠ .ok (some (.text s)) := by
  unfold naming.zeroName
  split
  · exact nofun
  · exact fun h => nomatch h

theorem naming_eq_text {v : Value} {s : String} :
    v.naming = .ok (some (.text s)) ↔ v = .text s := by
  constructor
  · intro h
    unfold naming at h
    split at h
    case h_1 t =>
      obtain rfl : t = s := by simpa using h
      rfl
    case h_12 g =>
      split at h
      · split at h <;> exact nomatch h
      · exact nomatch h
    all_goals first
      | exact absurd h zeroName_ne_text
      | cases h
  · rintro rfl
    rfl

/-- A text is the only value that is looked up as a text. -/
theorem key_eq_text {v : Value} {s : String} : v.key = .ok (.text s) ↔ v = .text s := by
  unfold key
  constructor
  · intro h
    obtain ⟨n, hn, h⟩ := Outcome.bind_ok.mp h
    cases n with
    | none => exact nomatch h
    | some n =>
      obtain rfl := Except.ok.inj h
      exact naming_eq_text.mp hn
  · rintro rfl
    rfl

end Quantities.Value

namespace Quantities.Registry

variable {reg reg' : Registry Float} {symbol magnitude unit offset : Value} {e : UnitEntry Float}

/-- Of all values a text alone can be defined, and it is defined by what the other values read as. -/
theorem defineValues_ok : reg.defineValues symbol magnitude unit offset = .ok (reg', e) ↔
    ∃ s, symbol = .text s ∧
      reg.define s magnitude.magnitude unit.unitText offset.number = .ok (reg', e) := by
  constructor
  · intro h
    obtain ⟨s, hkey, hdefine⟩ := define_of_defineValues h
    exact ⟨s, Value.key_eq_text.mp hkey, hdefine⟩
  · rintro ⟨s, rfl, h⟩
    exact h

/-- A symbol that is taken is refused before anything else is read. -/
theorem defineValues_taken {n : Name} (hkey : symbol.key = .ok n) (h : ¬ reg.IsFree n.normalized)
    (magnitude unit offset : Value) : ∃ f, reg.defineValues symbol magnitude unit offset = .error f ∧
      (f = .duplicateUnit n.normalized.shown ∨ f = .duplicateAlias n.normalized.shown) := by
  obtain ⟨f, hf, hshown⟩ := checkFree_error h
  refine ⟨f, Outcome.bind_error.mpr (Or.inr ⟨n, hkey, ?_⟩), hshown⟩
  cases n with
  | text s =>
    refine Outcome.bind_error.mpr (Or.inl (Outcome.bind_error.mpr (Or.inl ?_)))
    exact hf
  | void v => exact Outcome.bind_error.mpr (Or.inl hf)

/-- **What a definition does, exactly.** It succeeds if and only if the symbol is a text with a
stored form that is not empty and not taken, the magnitude is a single number, the unit string
stands for a quantity without an offset and of one number, the product of the two numbers is
positive and finite, and the offset times that product is finite. Then it adds that unit under the
stored form, which is found by it, and changes no other look-up: neither of a name or a prefix that
is known, nor, in a registry whose tables fit each other, of any other name. A symbol that is taken is
refused as a duplicate, whatever the other values are, and a definition that fails leaves the
registry as it was. -/
theorem define_exactly (reg : Registry Float) (symbol magnitude unit offset : Value) :
    let answer := reg.defineValues symbol magnitude unit offset
    let called := reg.call (.define symbol magnitude unit offset)
    (∀ reg' e, answer = .ok (reg', e) ↔ ∃ s, symbol = .text s ∧ normalize s ≠ "" ∧
        reg.IsFree (.text (normalize s)) ∧
        Derives reg (normalize s) magnitude.magnitude unit.unitText offset.number e ∧
        reg' = { reg with units := reg.units ++ [(normalize s, e)] }) ∧
      (∀ reg' e, answer = .ok (reg', e) → called = (reg', .ok ()) ∧
        reg'.lookupUnit e.symbol = some e ∧ Grows reg reg' ∧
        (∀ s, reg'.lookupPrefix s = reg.lookupPrefix s) ∧
        (reg.Consistent → ∀ n, n.normalized ≠ .text e.symbol →
          reg'.lookupName n = reg.lookupName n)) ∧
      (∀ n, symbol.key = .ok n → ¬ reg.IsFree n.normalized →
        ∃ f, answer = .error f ∧ f.kind = .duplicate) ∧
      ∀ f, answer = .error f → called = (reg, .error f) := by
  intro answer called
  have hcalled : called = call.keep reg (answer.map Prod.fst) := rfl
  have hiff : ∀ reg' e, answer = .ok (reg', e) ↔ ∃ s, symbol = .text s ∧ normalize s ≠ "" ∧
      reg.IsFree (.text (normalize s)) ∧
      Derives reg (normalize s) magnitude.magnitude unit.unitText offset.number e ∧
      reg' = { reg with units := reg.units ++ [(normalize s, e)] } := fun reg' e => by
    rw [defineValues_ok]
    simp only [define_iff]
  refine ⟨hiff, fun reg' e h => ?_, fun n hkey hn => ?_, fun f hf => ?_⟩
  · have hgrows := (inserts_defineValues h).grows
    obtain ⟨s, -, -, hfree, hderives, rfl⟩ := (hiff reg' e).mp h
    refine ⟨?_, ?_, hgrows, fun _ => rfl, fun hc n hn => ?_⟩
    · rw [hcalled, h]
      rfl
    · rw [hderives.symbol_eq]
      exact hfree.lookupUnit e
    · refine lookupName_append hc.target (rfl : _ = reg.units ++ [(normalize s, e)])
        (List.append_nil reg.aliases).symm ?_ nofun
      rw [hderives.symbol_eq] at hn
      exact List.forall_mem_singleton.mpr hn
  · obtain ⟨f, hf, rfl | rfl⟩ := defineValues_taken hkey hn magnitude unit offset
    · exact ⟨_, hf, rfl⟩
    · exact ⟨_, hf, rfl⟩
  · rw [hcalled, hf]
    rfl

/-- A new unit beside the standard ones, and another name that is taken. -/
theorem define_exactly_smoot :
    let reg : Registry Float := .standard
    let define : Call := .define (.text " smoot") (.real 1.7) (.text "m") (.integer 0)
    (∃ r, reg.defineValues (.text " smoot") (.real 1.7) (.text "m") (.integer 0) = .ok r ∧
      r.2.symbol = "smoot" ∧ reg.call define = (r.1, .ok ()) ∧ r.1.lookupUnit r.2.symbol = some r.2 ∧
        (reg.Consistent ∧ Name.normalized (.text "moot") ≠ .text "smoot" ∧
          r.1.lookupName (.text "moot") = reg.lookupName (.text "moot"))) ∧
    (Value.key (.text "sec") = .ok (.text "sec") ∧ ¬ reg.IsFree (Name.normalized (.text "sec")) ∧
      ∃ f, reg.defineValues (.text "sec") .nothing (.text "?") .nothing = .error f ∧
        f.kind = .duplicate ∧
          reg.call (.define (.text "sec") .nothing (.text "?") .nothing) = (reg, .error f)) := by
  intro reg define
  constructor
  · have hok : ∃ r, reg.defineValues (.text " smoot") (.real 1.7) (.text "m") (.integer 0) = .ok r ∧
        r.2.symbol = "smoot" := by decide +kernel
    obtain ⟨⟨reg', e⟩, h, hsymbol⟩ := hok
    have hnew : Name.normalized (.text "moot") ≠ .text "smoot" := by decide +kernel
    have spec := (define_exactly reg (.text " smoot") (.real 1.7) (.text "m") (.integer 0)).2.1 _ _ h
    refine ⟨⟨reg', e⟩, h, hsymbol, spec.1, spec.2.1, consistent_standard, hnew, ?_⟩
    exact spec.2.2.2.2 consistent_standard (.text "moot") (by rw [hsymbol]; exact hnew)
  · have htaken : ¬ reg.IsFree (Name.normalized (.text "sec")) := fun h => by
      have htarget : reg.target? (Name.normalized (.text "sec")) ≠ none := by decide +kernel
      exact htarget h.target
    have spec := define_exactly reg (.text "sec") .nothing (.text "?") .nothing
    obtain ⟨f, hf, hkind⟩ := spec.2.2.1 (.text "sec") rfl htaken
    exact ⟨rfl, htaken, f, hf, hkind, spec.2.2.2 f hf⟩

end Quantities.Registry
