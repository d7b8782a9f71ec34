import Quantities.Proofs.Magnitude
import Quantities.Proofs.Number.One
import Quantities.Proofs.Unit.Consistency
import Quantities.Proofs.Unit.Spelling

/-!
# The names that a registry lists

A registry lists the symbols of its units and their other names. Every one of them denotes a unit,
but a unit string can only make use of those that can be spelled, and the registry does not ask for
that when a name is inserted.

* `Lists`, `StandsFor`: a name stands in the tables, and beside it the unit that it stands for.
* `one_eq_parse`: one of a unit string is what the unit string stands for.
* **`one_of_listed`**: one of a listed name is one of the unit that it denotes, if the name can be
  spelled; and otherwise no unit string makes use of it.
* `listed_gallon`: a registry takes names of both sorts that cannot be spelled.
-/

namespace Quantities.Registry

/-- The name stands in one of the two tables of names. -/
def Lists {α : Type} (reg : Registry α) (name : String) : Prop :=
  name ∈ reg.units.map Prod.fst ∨ .text name ∈ reg.aliases.map Prod.fst

instance {α : Type} (reg : Registry α) (name : String) : Decidable (reg.Lists name) :=
  inferInstanceAs (Decidable (_ ∨ _))

/-- The name stands in the tables for the unit, as its symbol or beside it. -/
def StandsFor {α : Type} (reg : Registry α) (name : String) (e : UnitEntry α) : Prop :=
  (name, e) ∈ reg.units ∨ ∃ s, (.text name, s) ∈ reg.aliases ∧ (s, e) ∈ reg.units

/-- Every listed name is found, with the unit that it denotes. -/
theorem Consistent.exists_standsFor {α : Type} [Scalar α] {reg : Registry α} {name : String}
    (h : reg.Consistent) (hname : reg.Lists name) :
    ∃ e, reg.StandsFor name e ∧ reg.lookupUnit name = some e := by
  rcases hname with hname | hname
  · obtain ⟨⟨s, e⟩, he, rfl⟩ := List.mem_map.mp hname
    exact ⟨e, Or.inl he, h.lookupUnit he⟩
  · obtain ⟨⟨n, s⟩, ha, rfl⟩ := List.mem_map.mp hname
    obtain ⟨e, he, hlookup⟩ := h.lookupName ha
    exact ⟨e, Or.inr ⟨s, ha, he⟩, hlookup⟩

variable {reg : Registry Float} {name text : String} {e : UnitEntry Float}

/-! ## One of a unit -/

theorem combine_one (m : Magnitude Float) : Magnitude.combine (· * ·) (.scalar 1) m = .ok m := by
  rw [Magnitude.number_combine]
  exact congrArg Except.ok (Magnitude.map_eq_self Number.one_mul_float m)

/-- One of a unit string is what the unit string stands for. -/
theorem one_eq_parse (reg : Registry Float) (text : String) : reg.one text = reg.parse text := by
  have hunit : reg.parseUnit (some text) = reg.parse text := rfl
  rw [one, quantity, hunit]
  cases reg.parse text with
  | error f => rfl
  | ok u => simp only [bind, Except.bind, combine_one]

/-- The product with one drops the sign of a zero offset. -/
theorem unity_multiply {q : Quantity Float} (h : q.hasOffset = false) :
    Quantity.unity.multiply q = .ok { q with offset := 0 } := by
  have hunity : (Quantity.unity : Quantity Float).hasOffset = false := Quantity.single_unity.hasOffset
  have hm : Magnitude.combine (· * ·) (Quantity.unity : Quantity Float).magnitude q.magnitude =
      .ok q.magnitude := combine_one q.magnitude
  have hd : (Quantity.unity : Quantity Float).dimension * q.dimension = q.dimension :=
    one_mul q.dimension
  simp only [Quantity.multiply, hunity, h, Bool.or_self, Bool.false_eq_true, if_false, bind,
    Except.bind, hm, Quantity.plain, hd]

/-- A term that is a unit alone stands for one of it. -/
theorem evaluate_unit {t : Term} (hpower : t.power = 1) (h : reg.resolve text t = .ok (1, e)) :
    reg.evaluate text ⟨[t], none⟩ = e.quantity.map fun one =>
      { one with offset := if e.hasOffset then e.offset else 0 } := by
  have hone : ((1 : Float) == 1) = true := by decide +kernel
  have hne : ((1 : Float) != 1) = false := by decide +kernel
  have hevaluate : reg.evaluate text ⟨[t], none⟩ =
      if e.hasOffset then e.quantity else reg.product text [(false, t)] := by
    rw [evaluate_singleton, h]
    simp [bind, Except.bind, hone, hpower]
  have hproduct : reg.product text [(false, t)] =
      reg.termQuantity text false t >>= Quantity.unity.multiply := by
    rw [product_eq, List.foldlM_cons]
    simp only [List.foldlM_nil, bind_pure]
    rfl
  rw [hevaluate]
  rcases Outcome.ok_or_error e.quantity with ⟨one, hq⟩ | ⟨f, hq⟩
  · obtain ⟨-, -, hoffset⟩ := UnitEntry.quantity_ok hq
    cases ho : e.hasOffset with
    | true =>
      rw [hq, if_pos rfl, if_pos rfl, ← hoffset]
      rfl
    | false =>
      have hfree : one.hasOffset = false := by
        rw [Quantity.hasOffset, hoffset]
        exact ho
      have hterm : reg.termQuantity text false t = .ok one := by
        rw [termQuantity_eq h hq, ho, factorQuantity_eq, hne, hpower]
        rfl
      rw [hproduct, hterm, hq]
      exact unity_multiply hfree
  · have hterm : reg.termQuantity text false t = .error f := by
      unfold termQuantity
      rw [h]
      simp only [bind, Except.bind, hq]
    rw [hproduct, hterm, hq]
    cases e.hasOffset <;> rfl

/-- A spellable name that is found stands for one of the unit. -/
theorem parse_of_lookupUnit (hname : Spellable name) (he : reg.lookupUnit name = some e) :
    reg.parse name = e.quantity.map fun one =>
      { one with offset := if e.hasOffset then e.offset else 0 } := by
  have hresolve : reg.resolve name ⟨none, name, 1⟩ = .ok (1, e) := by
    refine resolve_ok.mpr (Or.inl ⟨rfl, ?_⟩)
    rw [resolveBare?, he]
  rw [parse_eq_evaluate (read_of_spellable hname), evaluate_unit rfl hresolve]

/-- **What listed names are good for.** Every listed name denotes a unit and is found. If the name
can be spelled, one of it is one of that unit, with its scale, its dimension and its offset.
Otherwise no unit string makes use of it: neither a symbol nor what follows a prefix in a symbol is
looked up under it. -/
theorem one_of_listed (calls : List Call) {start : Registry Float}
    (hstart : start ∈ [empty, standard]) {name : String}
    (hname : (calls.foldl after start).Lists name) :
    let reg := calls.foldl after start
    ∃ e, reg.StandsFor name e ∧ reg.lookupUnit name = some e ∧
      (Spellable name → reg.one name = e.quantity.map fun one =>
        { one with offset := if e.hasOffset then e.offset else 0 }) ∧
      (¬ Spellable name → ∀ text p, Plan.read text = .ok p → ∀ t ∈ p.terms,
        ∀ s, s ≠ "" → s.toList <:+ t.2.symbol.toList → normalize s ≠ name) := by
  intro reg
  obtain ⟨e, hstands, he⟩ := ((consistent_run calls).1 start hstart).1.exists_standsFor hname
  refine ⟨e, hstands, he, fun hspellable => ?_, fun hnot text p hread t ht s hne hs heq => ?_⟩
  · rw [one_eq_parse, parse_of_lookupUnit hspellable he]
  · have hspellable := (spellable_of_read hread ht).suffix hne hs
    exact hnot (heq ▸ spellable_normalize hspellable)

/-- A gallon with a blank in its symbol, and a symbol for it that can be spelled. -/
theorem one_of_listed_gallon :
    let volume : Value := .dimension { length := 3 }
    let calls : List Call := [.register (.text "US gal") (.real 0.5) volume (.integer 0),
      .registerName (.text "gallon") (.text "US gal")]
    let reg := calls.foldl after standard
    standard ∈ [empty, (standard : Registry Float)] ∧
    (reg.Lists "gallon" ∧ Spellable "gallon" ∧ ∃ e, reg.StandsFor "gallon" e ∧
      reg.one "gallon" = e.quantity.map fun one =>
        { one with offset := if e.hasOffset then e.offset else 0 }) ∧
    (reg.Lists "US gal" ∧ ¬ Spellable "US gal" ∧ ∀ text p, Plan.read text = .ok p →
      ∀ t ∈ p.terms, ∀ s, s ≠ "" → s.toList <:+ t.2.symbol.toList →
        normalize s ≠ "US gal") := by
  intro volume calls reg
  have hstart : standard ∈ [empty, (standard : Registry Float)] := List.mem_pair.mpr (Or.inr rfl)
  have hgallon : reg.Lists "gallon" := by decide +kernel
  have hspellable : Spellable "gallon" := by decide +kernel
  have hgal : reg.Lists "US gal" := by decide +kernel
  have hnot : ¬ Spellable "US gal" := by decide +kernel
  obtain ⟨e, hstands, -, hone, -⟩ := one_of_listed calls hstart hgallon
  obtain ⟨-, -, -, -, hunused⟩ := one_of_listed calls hstart hgal
  exact ⟨hstart, ⟨hgallon, hspellable, e, hstands, hone hspellable⟩, hgal, hnot, hunused hnot⟩

/-- A registry takes a symbol with a blank in it, and the empty text for another name. Both are
listed and found, and one of neither is one of the unit. -/
theorem listed_gallon :
    let volume : Value := .dimension { length := 3 }
    let calls : List Call := [.register (.text "US gal") (.real 0.5) volume (.integer 0),
      .registerName (.text "") (.text "US gal")]
    let reg := calls.foldl after empty
    let e : UnitEntry Float := ⟨"US gal", 0.5, Dimension.volume, 0, .number⟩
    (reg.Lists "US gal" ∧ reg.lookupUnit "US gal" = some e ∧
      reg.one "US gal" = .error (.unknownUnit "US" "US gal")) ∧
    reg.Lists "" ∧ reg.lookupUnit "" = some e ∧ reg.one "" = .ok .unity := by
  decide +kernel

end Quantities.Registry
