import Quantities.Proofs.Keys
import Quantities.Proofs.Unit.Term

/-!
# What unit strings can stand for

Whatever a unit string stands for is put together from one of each unit and from the factors of the
prefixes, by products, reciprocals and powers.

* `mem_of_lookupName`, `mem_of_resolve`: what a name or a term stands for is in the tables.
* `Closed`: a property of quantities that one of each unit has, and that the operations keep.
* **`Closed.parse`**: so every unit string stands for a quantity with that property.
-/

namespace Quantities.Registry

variable {α : Type} {reg : Registry α}

/-! ## The tables -/

theorem mem_of_lookupName {n : Name} {e : UnitEntry α} (h : reg.lookupName n = some e) :
    ∃ s, (s, e) ∈ reg.units := by
  unfold lookupName at h
  split at h
  · exact ⟨_, Keys.mem_of_lookup h⟩
  · obtain ⟨s, -, hs⟩ := Option.bind_eq_some_iff.mp h
    exact ⟨s, Keys.mem_of_lookup hs⟩

theorem mem_of_lookupUnit {s : String} {e : UnitEntry α} (h : reg.lookupUnit s = some e) :
    ∃ s, (s, e) ∈ reg.units := mem_of_lookupName h

theorem mem_of_lookupPrefix {s : String} {x : α} (h : reg.lookupPrefix s = some x) :
    ∃ s, (s, x) ∈ reg.prefixes := ⟨_, Keys.mem_of_lookup h⟩

theorem mem_of_split? {s : String} {n : Nat} {r : α × UnitEntry α}
    (h : reg.split? s n = some r) :
    (∃ s, (s, r.1) ∈ reg.prefixes) ∧ ∃ s, (s, r.2) ∈ reg.units := by
  unfold split? at h
  simp only at h
  split at h
  · exact nomatch h
  · split at h
    · rename_i hx he
      obtain rfl := Option.some.inj h
      exact ⟨mem_of_lookupPrefix hx, mem_of_lookupUnit he⟩
    · exact nomatch h

variable [Scalar α] {text : String} {t : Term} {factor : α} {e : UnitEntry α}

theorem mem_of_resolveBare? {s : String} {r : α × UnitEntry α}
    (h : reg.resolveBare? s = some r) :
    (r.1 = 1 ∨ ∃ s, (s, r.1) ∈ reg.prefixes) ∧ ∃ s, (s, r.2) ∈ reg.units := by
  unfold resolveBare? at h
  split at h
  · rename_i he
    obtain rfl := Option.some.inj h
    exact ⟨Or.inl rfl, mem_of_lookupUnit he⟩
  have hsplit : ∃ n, reg.split? s n = some r := by
    split at h
    · rename_i hs
      exact ⟨1, hs.trans h⟩
    · exact ⟨2, h⟩
  obtain ⟨n, hn⟩ := hsplit
  exact ⟨Or.inr (mem_of_split? hn).1, (mem_of_split? hn).2⟩

/-- The factor of a term is one or that of a prefix. -/
theorem mem_of_resolve (h : reg.resolve text t = .ok (factor, e)) :
    (factor = 1 ∨ ∃ s, (s, factor) ∈ reg.prefixes) ∧ ∃ s, (s, e) ∈ reg.units := by
  rcases resolve_ok.mp h with ⟨-, hr⟩ | ⟨bracket, -, hf, he⟩
  · exact mem_of_resolveBare? hr
  refine ⟨?_, mem_of_lookupUnit he⟩
  unfold bracketFactor? at hf
  split at hf
  · exact Or.inl (Option.some.inj hf).symm
  · exact Or.inr (mem_of_lookupPrefix hf)

/-! ## The operations -/

/-- One of each unit has the property, and so has what the evaluation of a unit string makes of
quantities that have it. -/
structure Closed (reg : Registry α) (P : Quantity α → Prop) : Prop where
  unity : P .unity
  factor : ∀ s x, (s, x) ∈ reg.prefixes → P (.number (.scalar x))
  unit : ∀ s e one, (s, e) ∈ reg.units → e.quantity = .ok one → P one
  multiply : ∀ p q r, P p → P q → p.multiply q = .ok r → P r
  invert : ∀ p q, P p → p.invert = .ok q → P q
  power : ∀ p q n, P p → p.power n = .ok q → P q

variable {P : Quantity α → Prop} {q : Quantity α}

theorem Closed.factorQuantity {one : Quantity α} {power : Int} {divided : Bool} (h : reg.Closed P)
    (hfactor : P (.number (.scalar factor))) (hone : P one)
    (hq : factorQuantity factor one power divided = .ok q) : P q := by
  rw [factorQuantity_eq] at hq
  obtain ⟨scaled, hscaled, hq⟩ := Outcome.bind_ok.mp hq
  obtain ⟨raised, hraised, hq⟩ := Outcome.bind_ok.mp hq
  have hs : P scaled := by
    split at hscaled
    · exact h.multiply _ _ _ hone hfactor hscaled
    · exact Except.ok.inj hscaled ▸ hone
  have hr : P raised := by
    split at hraised
    · exact Except.ok.inj hraised ▸ hs
    · exact h.power _ _ _ hs hraised
  split at hq
  · exact h.invert _ _ hr hq
  · exact Except.ok.inj hq ▸ hr

theorem Closed.termQuantity {divided : Bool} (h : reg.Closed P)
    (hq : reg.termQuantity text divided t = .ok q) : P q := by
  obtain ⟨⟨factor, e⟩, hresolve, hrest⟩ := Outcome.bind_ok.mp hq
  obtain ⟨one, hone, -⟩ := Outcome.bind_ok.mp hrest
  obtain ⟨hfactor, s, he⟩ := mem_of_resolve hresolve
  have hnumber : P (.number (.scalar factor)) := by
    rcases hfactor with rfl | ⟨s, hs⟩
    · exact h.unity
    · exact h.factor s factor hs
  rw [termQuantity_eq hresolve hone] at hq
  split at hq
  · exact nomatch hq
  · exact h.factorQuantity hnumber (h.unit s e one he hone) hq

/-- Each factor more keeps the property of the running product. -/
theorem Closed.foldlM (h : reg.Closed P) : ∀ {terms : List (Bool × Term)} {acc : Quantity α},
    P acc → terms.foldlM (fun acc t => do acc.multiply (← reg.termQuantity text t.1 t.2)) acc =
      .ok q → P q
  | [], _, hacc, hq => Except.ok.inj hq ▸ hacc
  | t :: terms, acc, hacc, hq => by
    obtain ⟨acc', hacc', hq⟩ := Outcome.bind_ok.mp hq
    obtain ⟨p, hp, hmul⟩ := Outcome.bind_ok.mp hacc'
    exact h.foldlM (h.multiply _ _ _ hacc (h.termQuantity hp) hmul) hq

theorem Closed.evaluate {p : Plan} (h : reg.Closed P) (hq : reg.evaluate text p = .ok q) :
    P q := by
  unfold Registry.evaluate at hq
  split at hq
  · obtain ⟨⟨factor, e⟩, hresolve, hq⟩ := Outcome.bind_ok.mp hq
    simp only at hq
    split at hq
    · obtain ⟨-, s, he⟩ := mem_of_resolve hresolve
      exact h.unit s e q he hq
    · exact h.foldlM h.unity hq
  · exact h.foldlM h.unity hq

/-- **Every unit string** stands for a quantity with the property, if for any. -/
theorem Closed.parse (h : reg.Closed P) (hq : reg.parse text = .ok q) : P q := by
  unfold Registry.parse at hq
  split at hq
  · exact Except.ok.inj hq ▸ h.unity
  · obtain ⟨p, -, hq⟩ := Outcome.bind_ok.mp hq
    exact h.evaluate hq

end Quantities.Registry
