import Quantities.Proofs.BestFit.Fit
import Quantities.Proofs.Unit.Stability
import Quantities.Unit.System

/-!
# Quantities in the systems of units

* `Spans`: units that have all base dimensions of a span among them, and none outside. With such
  units there are powers for a dimension exactly inside the span (`Spans.powersOf?`).
* `units_parse`, `units_read`, `units_takePower`, `units_span`: the units of the three systems in the
  standard registry. All are single terms without a power and without an offset, and no prefix has
  to be guessed, so they mean the same in every larger registry (`parse_of_grows`).
* `Quantity.inSystem_cases`: a quantity in a system, in any registry that has grown from the
  standard one.

Main result:
* **`Quantity.inSystem_spec`**: after any calls that insert, every quantity has a text in SI units,
  and in CGS and US units exactly those of mechanics and heat. The texts stand for the dimension of
  the quantity.
-/

namespace Quantities

open BestFit
open Dimension (base)
open Text (tail)

namespace BestFit

variable {cs : List Candidate} {d : Dimension} {span : BaseDimension → Bool}

/-! ## Units that span -/

/-- The candidates span some base dimensions: each of these is a candidate, and no candidate has
another one. -/
structure Spans (cs : List Candidate) (span : BaseDimension → Bool) : Prop where
  base : ∀ b, span b = true → ∃ u, (u, base b) ∈ cs
  zero : ∀ c ∈ cs, ∀ b, span b = false → c.2.exponent b = 0

/-- While something is left, a base dimension can be taken off. -/
theorem Spans.exists_less (h : Spans cs span) (hd : ∀ b, span b = false → d.exponent b = 0)
    (h0 : d.dimensionality ≠ 0) : ∃ c ∈ cs, ∃ g : Int, (g = -1 ∨ g = 1) ∧
      (d / c.2 ^ g).dimensionality < d.dimensionality := by
  obtain ⟨b, hb⟩ : ∃ b, d.exponent b ≠ 0 := by
    by_contra hall
    refine h0 (Dimension.dimensionality_eq_zero_iff.mpr (Dimension.ext_exponent fun b => ?_))
    rw [Dimension.exponent_one]
    exact not_not.mp fun hb => hall ⟨b, hb⟩
  have hspan : span b = true := by
    by_contra hfalse
    exact hb (hd b (by simpa using hfalse))
  obtain ⟨u, hu⟩ := h.base b hspan
  obtain ⟨g, hg, hless⟩ := Dimension.exists_sign_dimensionality_lt hb
  exact ⟨_, hu, g, hg, hless⟩

/-- Taking off a candidate leaves a dimension in the span. -/
theorem Spans.step {s : Step} (h : Spans cs span) (hs : best? cs d = some s)
    (hd : ∀ b, span b = false → d.exponent b = 0) :
    ∀ b, span b = false → s.rest.exponent b = 0 := by
  obtain ⟨⟨c, hc, -, -, hrest⟩, -⟩ := best?_spec hs
  intro b hb
  rw [hrest, Dimension.exponent_div, Dimension.exponent_pow, hd b hb, h.zero c hc b hb]
  simp

/-- **Inside the span the search ends well.** While something is left, the best step leaves less, as
some step does. -/
theorem Spans.search (h : Spans cs span) (d : Dimension) (ps : List (String × Int))
    (hd : ∀ b, span b = false → d.exponent b = 0) : ∃ r, search? cs d ps = some r := by
  fun_induction search? cs d ps with
  | case1 d ps h0 => exact ⟨ps, rfl⟩
  | case2 d ps h0 hbest =>
    obtain ⟨c, hc, -⟩ := h.exists_less hd h0
    obtain ⟨s, hs⟩ := exists_best? (d := d) hc
    exact absurd (hs.symm.trans hbest) (Option.some_ne_none s)
  | case3 d ps _ s best less ih => exact ih (h.step best hd)
  | case4 d ps h0 s hbest hless =>
    obtain ⟨c, hc, g, hg, hlt⟩ := h.exists_less hd h0
    exact absurd (((best?_spec hbest).2 c hc g hg).trans_lt hlt) hless

/-- Powers of the units stay inside the span. -/
theorem Spans.exponent_prod {D : String → Dimension} {units : List String}
    (h : Spans (units.map fun u => (u, D u)) span) {powers : List (String × Int)}
    (hmem : ∀ c ∈ powers, c.1 ∈ units) {b : BaseDimension} (hb : span b = false) :
    (powers.map fun c => D c.1 ^ c.2).prod.exponent b = 0 := by
  rw [Dimension.exponent_prod, List.map_map]
  refine List.sum_eq_zero fun x hx => ?_
  obtain ⟨c, hc, rfl⟩ := List.mem_map.mp hx
  have hzero := h.zero (c.1, D c.1) (List.mem_map_of_mem (hmem c hc)) b hb
  rw [Function.comp_apply, Dimension.exponent_pow, hzero, zero_mul]

/-- **There are powers exactly inside the span.** -/
theorem Spans.powersOf? {D : String → Dimension} {units : List String}
    (h : Spans (units.map fun u => (u, D u)) span) (d : Dimension) :
    (∃ r, powersOf? (units.map fun u => (u, D u)) d = some r) ↔
      ∀ b, span b = false → d.exponent b = 0 := by
  constructor
  · rintro ⟨r, hr⟩ b hb
    have exact := powersOf?_exact hr
    rw [← exact.prod, h.exponent_prod exact.mem hb]
  · intro hd
    obtain ⟨r, hr⟩ := h.search d [] hd
    exact ⟨_, by rw [BestFit.powersOf?, hr]; rfl⟩

end BestFit

/-! ## The systems in the standard registry -/

namespace UnitSystem

/-- The base dimensions that the units of a system span: all of them, or those of mechanics and
heat. -/
def spans : UnitSystem → BaseDimension → Bool
  | si, _ => true
  | _, .mass | _, .length | _, .time | _, .temperature => true
  | _, _ => false

/-- The standard registry. -/
abbrev registry : Registry Float := .standard

/-- The unit strings of a system, and that of the number one, stand for something without an
offset in the standard registry. -/
theorem units_parse (s : UnitSystem) : ∀ u ∈ "1" :: s.units,
    ∃ q, registry.parse u = .ok q ∧ q.hasOffset = false := by
  cases s <;> decide +kernel

/-- They are single terms whose symbols are units, which no new unit can change. -/
theorem units_read (s : UnitSystem) : ∀ u ∈ "1" :: s.units, ∃ p, Plan.read u = .ok p ∧
    p.denominator = none ∧ p.numerator.length = 1 ∧
      (∀ t ∈ p.terms, registry.isDirect t.2 = true) := by
  cases s <;> decide +kernel

theorem units_takePower (s : UnitSystem) : ∀ u ∈ s.units,
    Term.takesPower (tail Plan.isBreak u.toList) = true := by
  cases s <;> decide +kernel

theorem units_span (s : UnitSystem) :
    (∀ b ∈ BaseDimension.all, s.spans b = true → ∃ u ∈ s.units, registry.dimensionOf u = base b) ∧
      ∀ b ∈ BaseDimension.all, s.spans b = false →
        ∀ u ∈ s.units, (registry.dimensionOf u).exponent b = 0 := by
  cases s <;> decide +kernel

/-! ## The systems in a larger registry -/

variable {reg : Registry Float} {s : UnitSystem} {u : String}

/-- In every larger registry they stand for the same. -/
theorem parse_of_grows (h : Registry.Grows registry reg) (hu : u ∈ "1" :: s.units) :
    ∃ q, registry.parse u = .ok q ∧ reg.parse u = .ok q ∧ q.hasOffset = false := by
  obtain ⟨q, hq, ho⟩ := s.units_parse u hu
  obtain ⟨p, hp, -, -, hdirect⟩ := s.units_read u hu
  exact ⟨q, hq, h.parse hp hdirect hq, ho⟩

theorem dimensionOf_of_grows (h : Registry.Grows registry reg) (hu : u ∈ s.units) :
    reg.dimensionOf u = registry.dimensionOf u := by
  obtain ⟨q, hq, hq', -⟩ := parse_of_grows h (List.mem_cons_of_mem "1" hu)
  rw [Registry.dimensionOf_of_parse hq, Registry.dimensionOf_of_parse hq']

theorem plain_of_grows (h : Registry.Grows registry reg) (hu : u ∈ s.units) : reg.Plain u := by
  obtain ⟨q, -, hq, ho⟩ := parse_of_grows h (List.mem_cons_of_mem "1" hu)
  obtain ⟨⟨ts, ds⟩, hp, rfl, hlen, -⟩ := s.units_read u (List.mem_cons_of_mem "1" hu)
  obtain ⟨t, rfl⟩ := List.length_eq_one_iff.mp hlen
  refine ⟨?_, ⟨t, hp⟩, s.units_takePower u hu⟩
  rcases Registry.denotes_of_parse hq ho with ⟨hblank, -⟩ | ⟨p, hread, hfactors, hd⟩
  · rw [Registry.not_blank_of_read hp] at hblank
    exact nomatch hblank
  · exact ⟨p, hread, hfactors, hd.trans (Registry.dimensionOf_of_parse hq).symm⟩

theorem spans_of_grows (h : Registry.Grows registry reg) :
    Spans (s.units.map fun u => (u, reg.dimensionOf u)) s.spans := by
  refine ⟨fun b hb => ?_, fun c hc b hb => ?_⟩
  · obtain ⟨u, hu, hd⟩ := s.units_span.1 b b.mem_all hb
    exact ⟨u, List.mem_map.mpr ⟨u, hu, by rw [dimensionOf_of_grows h hu, hd]⟩⟩
  · obtain ⟨u, hu, rfl⟩ := List.mem_map.mp hc
    rw [dimensionOf_of_grows h hu]
    exact s.units_span.2 b b.mem_all hb u hu

end UnitSystem

/-! ## Quantities in a system -/

/-- What the units of the smaller systems do not span. -/
theorem UnitSystem.spans_eq_false {s : UnitSystem} (hs : s = .cgs ∨ s = .us) (b : BaseDimension) :
    s.spans b = false ↔ b ∈ [.current, .substance, .luminosity, .information, .rotation] := by
  rcases hs with rfl | rfl <;> cases b <;> decide

open UnitSystem in
/-- Inside the span of a system a quantity has a text in it; outside, the units do not suffice. -/
theorem Quantity.inSystem_cases {reg : Registry Float} (h : Registry.Grows registry reg)
    (q : Quantity Float) (s : UnitSystem) (hrange : q.dimension.dimensionality ≤ 10 ^ 300) :
    ((∀ b, s.spans b = false → q.dimension.exponent b = 0) ∧
      ∃ m text u, q.inSystem reg s = .ok (m, text) ∧ reg.parse text = .ok u ∧
        u.dimension = q.dimension ∧ u.offset = 0) ∨
    (¬ (∀ b, s.spans b = false → q.dimension.exponent b = 0) ∧
      ∃ f, q.inSystem reg s = .error f ∧ f.kind = .insufficientUnits) := by
  have hknown : ∀ u ∈ s.units, ∃ v, reg.parse u = .ok v ∧ v.dimension = reg.dimensionOf u := by
    intro u hu
    obtain ⟨v, -, hv, -⟩ := parse_of_grows h (List.mem_cons_of_mem "1" hu)
    exact ⟨v, hv, (Registry.dimensionOf_of_parse hv).symm⟩
  have hspan := (spans_of_grows h (s := s)).powersOf? q.dimension
  cases hr : powersOf? (s.units.map fun u => (u, reg.dimensionOf u)) q.dimension with
  | none =>
    refine Or.inr ⟨fun hin => ?_, ?_⟩
    · obtain ⟨r, hr'⟩ := hspan.mpr hin
      rw [hr] at hr'
      exact nomatch hr'
    · refine ⟨.insufficientUnits q.dimension.text (s.units.map some), ?_, rfl⟩
      have hshown := Dimension.isWritable_of_dimensionality_le (by decide) hrange
      rw [Quantity.inSystem, Quantity.fit, Registry.decompose_eq q.dimension hknown, hr,
        Failure.showing_of_isWritable hshown]
      rfl
  | some powers =>
    refine Or.inl ⟨hspan.mp ⟨powers, hr⟩, ?_⟩
    have hpowers := (Registry.decompose_ok q.dimension hknown).mpr hr
    have exact := powersOf?_exact hr
    have hplain : ∀ c ∈ powers, reg.Plain c.1 := fun c hc => plain_of_grows h (exact.mem c hc)
    have hone : reg.parse "1" = .ok .unity := by
      obtain ⟨v, hv, hv', -⟩ := parse_of_grows (s := s) h List.mem_cons_self
      obtain rfl := Except.ok.inj (hv.symm.trans (by decide +kernel :
        registry.parse "1" = .ok .unity))
      exact hv'
    obtain ⟨u, hu, hd, hoff⟩ := (Registry.writable_of_plain exact hplain).parse hone exact.ne_zero
      (fun c hc => (Registry.natAbs_le_of_exact exact hc).trans hrange)
      fun c hc => (hplain c hc).product
    obtain ⟨⟨m, text⟩, hfit⟩ := (Quantity.fit_ok hpowers).mpr ⟨u, hu, hd⟩
    obtain rfl := Quantity.text_of_fit hpowers hfit
    exact ⟨m, _, u, hfit, hu, hd, hoff⟩

/-- **Quantities in the systems of units.** Let a registry come from the standard one by any calls,
and let a quantity have a dimensionality that is in range. It has a text in SI units; it has one in
CGS and in US units exactly when it has no current, substance, luminosity, information and rotation;
otherwise the units do not suffice, which is the only failure; and every such text stands in that
registry for the dimension of the quantity, without an offset. -/
theorem Quantity.inSystem_spec (calls : List Registry.Call) (q : Quantity Float)
    (hrange : q.dimension.dimensionality ≤ 10 ^ 300) :
    let reg := calls.foldl Registry.after Registry.standard
    (∃ r, q.inSystem reg .si = .ok r) ∧
    (∀ s, s = .cgs ∨ s = .us → ((∃ r, q.inSystem reg s = .ok r) ↔
      ∀ b ∈ [.current, .substance, .luminosity, .information, .rotation],
        q.dimension.exponent b = 0)) ∧
    ∀ s, (∀ f, q.inSystem reg s = .error f → f.kind = .insufficientUnits) ∧
      ∀ m text, q.inSystem reg s = .ok (m, text) →
        ∃ u, reg.parse text = .ok u ∧ u.dimension = q.dimension ∧ u.offset = 0 := by
  intro reg
  have hcases := fun s => q.inSystem_cases (Registry.grows_run calls .standard) s hrange
  have hok : ∀ s : UnitSystem, (∃ r, q.inSystem reg s = .ok r) ↔
      ∀ b, s.spans b = false → q.dimension.exponent b = 0 := by
    intro s
    rcases hcases s with ⟨hin, m, text, u, hr, -⟩ | ⟨hout, f, hf, -⟩
    · exact ⟨fun _ => hin, fun _ => ⟨_, hr⟩⟩
    · refine ⟨fun ⟨r, hr⟩ => ?_, fun hin => absurd hin hout⟩
      rw [hf] at hr
      exact nomatch hr
  refine ⟨(hok .si).mpr fun b hb => (nomatch hb), fun s hs => (hok s).trans ?_, fun s => ?_⟩
  · exact forall_congr' fun b => by rw [UnitSystem.spans_eq_false hs b]
  · rcases hcases s with ⟨-, m, text, u, hr, hu⟩ | ⟨-, f, hf, hkind⟩
    · refine ⟨fun f hf => ?_, fun m' text' hr' => ?_⟩
      · rw [hr] at hf
        exact nomatch hf
      · obtain ⟨-, rfl⟩ := Prod.mk.inj (Except.ok.inj (hr.symm.trans hr'))
        exact ⟨u, hu⟩
    · refine ⟨fun f' hf' => ?_, fun m text hr => ?_⟩
      · rw [← Except.error.inj (hf.symm.trans hf')]
        exact hkind
      · rw [hf] at hr
        exact nomatch hr

theorem Quantity.inSystem_spec_energy :
    let q : Quantity Float := .plain (.scalar 1) Dimension.energy
    let calls : List Registry.Call :=
      [.registerPrefix (.text "q") (.real 1e30), .registerName (.text "N") (.text "m"),
        .load "not a document"]
    let reg := calls.foldl Registry.after Registry.standard
    q.dimension.dimensionality ≤ 10 ^ 300 ∧
    (∃ r, q.inSystem reg .si = .ok r) ∧
    (∀ s, s = .cgs ∨ s = .us → ((∃ r, q.inSystem reg s = .ok r) ↔
      ∀ b ∈ [.current, .substance, .luminosity, .information, .rotation],
        q.dimension.exponent b = 0)) ∧
    ∀ s, (∀ f, q.inSystem reg s = .error f → f.kind = .insufficientUnits) ∧
      ∀ m text, q.inSystem reg s = .ok (m, text) →
        ∃ u, reg.parse text = .ok u ∧ u.dimension = q.dimension ∧ u.offset = 0 := by
  intro q calls reg
  have hrange : q.dimension.dimensionality ≤ 10 ^ 300 := le_pow_of_le (by decide) (by decide)
  exact ⟨hrange, Quantity.inSystem_spec calls q hrange⟩

end Quantities
