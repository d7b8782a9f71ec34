import Quantities.Proofs.Unit.Closure
import Quantities.Proofs.Unit.Evaluation
import Quantities.Proofs.Unit.Grammar
import Quantities.Unit.Standard

/-!
# Why unit strings are refused

A unit string should be refused for what it says: it breaks the grammar, it names something that is
unknown, or it puts a unit with an offset into a compound. There are three more failures, and none of
them is a failure of unit strings: a power with too many digits, a power that no double can hold, and
a unit that was registered in a form of which no quantity can be made.

* `Failure.OfUnitText`: the failures that a unit string should have.
* `Plan.Defect.kind`, `ofUnitText_of_resolve`: so fail all texts that break the grammar, except for
  long powers, and all names that are unknown.
* `Escapes` lists the three other failures. `Escapes.parse` says that each of them occurs where it
  is listed, and `escapes_raise` that every unit without an offset has powers with such a failure;
  `parse_raise_metre` is one.
* `Usable.not_escapes`: where quantities can be made of all units, a text whose powers are moderate
  never has one of the three.
* **`parseUnit_error`**: no unit string fails in any other way.
-/

namespace Quantities

/-- The failures that belong to unit strings: something in the text cannot be read, something in it
is unknown, or a unit with an offset does not stand alone. -/
def Failure.OfUnitText (f : Failure) : Prop :=
  .unitText ∈ f.kind.lineage ∨ f.kind = .compoundOffset

instance (f : Failure) : Decidable f.OfUnitText := inferInstanceAs (Decidable (_ ∨ _))

theorem Failure.ofUnitText_of_broader {f : Failure} (h : f.kind.broader? = some .unitText) :
    f.OfUnitText := by
  refine Or.inl ?_
  rw [Kind.lineage, h]
  exact List.mem_cons_of_mem _ List.mem_cons_self

theorem UnitEntry.quantity_of_number {α : Type} {e : UnitEntry α} (h : e.form = .number) :
    e.quantity = .ok ⟨.scalar e.scale, e.dimension, e.offset⟩ := by rw [quantity, h]

/-! ## The grammar -/

namespace Term

variable {text : String} {cs word : List Char} {k : Failure.Kind} {f : Failure}

theorem PowerDefect.kind (h : PowerDefect text cs k f) : k = .invalidPower ∨ k = .badValue := by
  cases h with
  | invalid => exact Or.inl rfl
  | zero => exact Or.inl rfl
  | long => exact Or.inr rfl

theorem Defect.kind (h : Defect text word k f) :
    k = .malformedUnitText ∨ k = .invalidPower ∨ k = .badValue := by
  cases h with
  | shape => exact Or.inl rfl
  | power _ h => exact Or.inr h.kind

end Term

namespace Plan

variable {text : String} {cs : List Char} {k : Failure.Kind} {f : Failure}

theorem SectionDefect.kind (h : SectionDefect text cs k f) :
    k = .malformedUnitText ∨ k = .invalidPower ∨ k = .badValue := by
  cases h with
  | empty => exact Or.inl rfl
  | word _ _ h => exact h.kind

/-- What is wrong with a text makes it malformed, or a power in it invalid or too long. -/
theorem Defect.kind (h : Defect text k f) :
    k = .malformedUnitText ∨ k = .invalidPower ∨ k = .badValue := by
  cases h with
  | parenthesis => exact Or.inl rfl
  | slashes => exact Or.inl rfl
  | product _ h => exact h.kind
  | numerator _ _ _ h => exact h.kind
  | denominator _ _ _ h => exact h.kind

/-- A blank text is a section without words. -/
theorem read_of_blank (h : text.toList.all Text.isBlank = true) :
    Plan.read text = .error (.emptySection text) := by
  rw [List.all_eq_true] at h
  have hplain : IsSection text.toList := fun c hc =>
    ⟨fun e => absurd (e ▸ h c hc) (by decide), fun e => absurd (e ▸ h c hc) (by decide),
      fun e => absurd (e ▸ h c hc) (by decide)⟩
  have hwords : Text.words text.toList = [] := by
    rw [Text.words_eq_pieces]
    exact Text.pieces_eq_nil h
  rw [read_product hplain, readSection, hwords]
  rfl

/-- A text with a power that is too long is not blank. -/
theorem Defect.not_blank (h : Defect text .badValue f) : text.toList.all Text.isBlank = false := by
  by_contra hblank
  obtain ⟨hread, hkind⟩ := h.read
  rw [read_of_blank (Bool.of_not_eq_false hblank)] at hread
  obtain rfl := Except.error.inj hread
  exact nomatch hkind

/-- All powers in a text can be used: none is too long, and all are in range. -/
structure Moderate (text : String) : Prop where
  short : ∀ f, ¬ Defect text .badValue f
  inRange : ∀ p, Plan.read text = .ok p → ∀ t ∈ p.terms, t.2.InRange

theorem moderate_of_read {p : Plan} (h : Plan.read text = .ok p)
    (hp : ∀ t ∈ p.terms, t.2.InRange) : Moderate text where
  short f hf := nomatch h.symm.trans hf.read.1
  inRange p' hp' := by
    obtain rfl := Except.ok.inj (h.symm.trans hp')
    exact hp

end Plan

/-! ## The registry -/

namespace Registry

variable {α : Type} [Scalar α] {reg : Registry α} {text : String} {t : Term} {f : Failure}

/-- A term that cannot be resolved has an unknown prefix or an unknown unit. -/
theorem ofUnitText_of_resolve (h : reg.resolve text t = .error f) : f.OfUnitText := by
  unfold resolve at h
  split at h
  · split at h
    · exact nomatch h
    · exact Except.error.inj h ▸ Failure.ofUnitText_of_broader rfl
  · split at h
    · exact Except.error.inj h ▸ Failure.ofUnitText_of_broader rfl
    · split at h
      · exact nomatch h
      · exact Except.error.inj h ▸ Failure.ofUnitText_of_broader rfl

/-- The failures of a unit string that do not belong to unit strings. In the last two cases all terms
in front of the one that fails are in order. -/
inductive Escapes (reg : Registry α) (text : String) : Failure → Prop
  /-- The first defect of the text is a power of more digits than are read. -/
  | long {f : Failure} (h : Plan.Defect text .badValue f) : Escapes reg text f
  /-- A unit without an offset has a power that is out of the range of doubles. -/
  | large {p : Plan} {before after : List (Bool × Term)} {t : Bool × Term} {factor : α}
      {e : UnitEntry α} (read : Plan.read text = .ok p) (terms : p.terms = before ++ t :: after)
      (fine : ∀ s ∈ before, reg.Factors s.2) (known : reg.Knows t.2 factor e)
      (free : e.hasOffset = false) (h : ¬ t.2.InRange) : Escapes reg text .outOfRange
  /-- A unit was registered in a form of which no quantity can be made. -/
  | unusable {p : Plan} {before after : List (Bool × Term)} {t : Bool × Term} {factor : α}
      {e : UnitEntry α} {f : Failure} (read : Plan.read text = .ok p)
      (terms : p.terms = before ++ t :: after) (fine : ∀ s ∈ before, reg.Factors s.2)
      (resolve : reg.resolve text t.2 = .ok (factor, e)) (h : e.quantity = .error f) :
      Escapes reg text f

/-- A bare unit with an offset is the unit of every term of its plan, as there is only one. -/
theorem BareOffset.knows_of_mem {p : Plan} {t : Term} {e : UnitEntry α} (h : reg.BareOffset p t e)
    {s : Bool × Term} (hs : s ∈ p.terms) : ∃ factor, reg.Knows s.2 factor e := by
  obtain ⟨rfl, -, ⟨factor, known, -⟩, -⟩ := h
  obtain rfl := List.mem_singleton.mp hs
  exact ⟨factor, known⟩

variable [Scalar.Grounded α]

/-- A unit string that escapes fails as it is listed. -/
theorem Escapes.parse (h : reg.Escapes text f) : reg.parse text = .error f := by
  cases h with
  | long h =>
    unfold Registry.parse
    rw [h.not_blank, h.read.1]
    rfl
  | @large p before after t factor e read terms fine known free h =>
    rw [parse_eq_evaluate read]
    refine evaluate_error terms fine (.outOfRange known free h) fun t' e' hbare => ?_
    obtain ⟨factor', known'⟩ := hbare.knows_of_mem (terms ▸ List.mem_append_cons_self)
    obtain ⟨-, rfl⟩ := known.unique known'
    exact nomatch free.symm.trans hbare.hasOffset
  | @unusable p before after t factor e f read terms fine resolve h =>
    rw [parse_eq_evaluate read]
    refine evaluate_error terms fine (.unusable resolve h) fun t' e' hbare => ?_
    obtain ⟨factor', known'⟩ := hbare.knows_of_mem (terms ▸ List.mem_append_cons_self)
    have heq := resolve.symm.trans (known'.resolve text)
    simp only [Except.ok.injEq, Prod.mk.injEq] at heq
    obtain ⟨one, hone⟩ := known'.usable
    rw [← heq.2, h] at hone
    exact nomatch hone

omit [Scalar.Grounded α] in
/-- A term that fails makes the unit string fail for what it says, or escape. -/
theorem TermFails.cases {p : Plan} {before after : List (Bool × Term)} {t : Bool × Term}
    (read : Plan.read text = .ok p) (terms : p.terms = before ++ t :: after)
    (fine : ∀ s ∈ before, reg.Factors s.2) (h : reg.TermFails text t.2 f) :
    f.OfUnitText ∨ reg.Escapes text f := by
  cases h with
  | unresolved h => exact Or.inl (ofUnitText_of_resolve h)
  | unusable resolve h => exact Or.inr (.unusable read terms fine resolve h)
  | offset => exact Or.inl (Or.inr rfl)
  | outOfRange known free h => exact Or.inr (.large read terms fine known free h)

/-- **Every failure** belongs to unit strings, or escapes. -/
theorem parse_error (h : reg.parse text = .error f) : f.OfUnitText ∨ reg.Escapes text f := by
  unfold Registry.parse at h
  split at h
  · exact nomatch h
  rcases Outcome.bind_error.mp h with hread | ⟨p, read, heval⟩
  · have hdefect := Plan.read_defect hread
    rcases hdefect.kind with hk | hk | hk
    · exact Or.inl (Failure.ofUnitText_of_broader (by rw [hk]; rfl))
    · exact Or.inl (Failure.ofUnitText_of_broader (by rw [hk]; rfl))
    · exact Or.inr (.long (hk ▸ hdefect))
  · rcases reg.plan_cases text p with hf | ⟨t, e, hb⟩ | ⟨_, _, _, f', terms, fine, fails, heval'⟩
    · obtain ⟨q, hq, -⟩ := evaluate_compound text hf
      exact nomatch heval.symm.trans hq
    · obtain ⟨q, hq, -⟩ := evaluate_bareOffset text hb
      exact nomatch heval.symm.trans hq
    · obtain rfl := Except.error.inj (heval'.symm.trans heval)
      exact fails.cases read terms fine

/-! ## Powers that are too large -/

omit [Scalar.Grounded α] in
/-- What a term stands for does not depend on its power. -/
theorem Knows.raise {factor : α} {e : UnitEntry α} {t : Term} (h : reg.Knows t factor e) (n : Int) :
    reg.Knows { t with power := n } factor e := ⟨h.resolve, h.usable⟩

omit [Scalar.Grounded α] in
/-- **A unit without an offset escapes with every large power** that can be written behind it. -/
theorem escapes_raise {t : Term} {factor : α} {e : UnitEntry α}
    (read : Plan.read text = .ok ⟨[t], none⟩)
    (ht : Term.takesPower (Text.tail Plan.isBreak text.toList) = true)
    (known : reg.Knows t factor e) (free : e.hasOffset = false) {n : Nat}
    (hlarge : Number.integerLimit ≤ n) (hn : n < 10 ^ Term.digitLimit) :
    reg.Escapes (text ++ "^" ++ Number.natText n) .outOfRange := by
  have hpos : 1 < n := lt_of_lt_of_le (by decide +kernel) hlarge
  obtain ⟨p, before, s, hp, -, -, hterms, hraised⟩ :=
    (Plan.read_ok.mp read).raise ht (by omega : 0 < n) hn
  obtain ⟨rfl, rfl⟩ : before = [] ∧ s = (false, t) := by
    cases before with
    | nil => simpa [Plan.terms, eq_comm] using hterms
    | cons b bs => simp [Plan.terms] at hterms
  have htext : (text ++ "^" ++ Number.natText n).toList = text.toList ++ '^' :: Nat.toDigits 10 n := by
    simp [Number.natText]
  refine .large (Plan.read_ok.mpr (htext ▸ hp)) hraised (List.forall_mem_nil _) (known.raise n)
    free ?_
  rintro (h1 | hlt)
  · simp only at h1
    omega
  · simp only [Int.natAbs_natCast] at hlt
    omega

/-- A metre escapes with the power `10 ^ 309`. -/
theorem escapes_raise_metre : (Registry.standard : Registry Float).Escapes
    ("m" ++ "^" ++ Number.natText (10 ^ 309)) .outOfRange := by
  have hread : Plan.read "m" = .ok ⟨[⟨none, "m", 1⟩], none⟩ := by decide +kernel
  have hmetre : ∃ r, (Registry.standard : Registry Float).resolve "m" ⟨none, "m", 1⟩ = .ok r ∧
      r.2.form = .number ∧ r.2.hasOffset = false := by decide +kernel
  obtain ⟨⟨factor, e⟩, hresolve, hform, hoffset⟩ := hmetre
  exact escapes_raise hread (by decide +kernel)
    (knows_of_resolve hresolve (UnitEntry.quantity_of_number hform)) hoffset
    (by decide +kernel) (by decide +kernel)

/-- So it is refused, but not for what the text says. -/
theorem parse_raise_metre :
    (Registry.standard : Registry Float).parse ("m" ++ "^" ++ Number.natText (10 ^ 309)) =
      .error .outOfRange ∧ ¬ Failure.OfUnitText .outOfRange :=
  ⟨escapes_raise_metre.parse, by decide⟩

/-! ## What cannot escape -/

/-- Of every unit a quantity can be made. -/
def Usable (reg : Registry α) : Prop := ∀ u ∈ reg.units, ∃ one, u.2.quantity = .ok one

omit [Scalar.Grounded α] in
/-- Moderate powers of usable units never escape. -/
theorem Usable.not_escapes (hreg : reg.Usable) (htext : Plan.Moderate text) :
    ¬ reg.Escapes text f := by
  intro h
  cases h with
  | long h => exact htext.short f h
  | large read terms _ _ _ h =>
    exact h (htext.inRange _ read _ (terms ▸ List.mem_append_cons_self))
  | unusable _ _ _ resolve h =>
    obtain ⟨-, s, hmem⟩ := mem_of_resolve resolve
    obtain ⟨one, hone⟩ := hreg _ hmem
    exact nomatch hone.symm.trans h

omit [Scalar α] [Scalar.Grounded α] in
theorem usable_of_number (h : ∀ u ∈ reg.units, u.2.form = .number) : reg.Usable :=
  fun u hu => ⟨_, UnitEntry.quantity_of_number (h u hu)⟩

theorem usable_standard : (Registry.standard : Registry Float).Usable :=
  usable_of_number (by decide +kernel)

/-- **Why unit strings are refused.** For what they say, unless they escape; those that escape fail
as listed. Unit strings with moderate powers do not escape from a registry of usable units, so these
stand for something or are refused for what they say. No unit string at all stands for something. -/
theorem parseUnit_error (reg : Registry α) (text : Option String) :
    (∀ f, reg.parseUnit text = .error f →
      f.OfUnitText ∨ ∃ s, text = some s ∧ reg.Escapes s f) ∧
    (∀ s f, text = some s → reg.Escapes s f → reg.parseUnit text = .error f) ∧
    (reg.Usable → (∀ s, text = some s → Plan.Moderate s) →
      ∀ f, reg.parseUnit text = .error f → f.OfUnitText) := by
  cases text with
  | none =>
    have hok : ∀ f, reg.parseUnit none ≠ .error f := fun f h => nomatch h
    exact ⟨fun f h => absurd h (hok f), fun s f hs => (nomatch hs), fun _ _ f h => absurd h (hok f)⟩
  | some s =>
    refine ⟨fun f h => ?_, fun s' f hs h => ?_, fun hreg hs f h => ?_⟩
    · exact (parse_error h).imp_right fun hescapes => ⟨s, rfl, hescapes⟩
    · obtain rfl := Option.some.inj hs
      exact h.parse
    · exact (parse_error h).resolve_right (hreg.not_escapes (hs s rfl))

theorem parseUnit_error_standard :
    let reg : Registry Float := .standard
    let raised := "m" ++ "^" ++ Number.natText (10 ^ 309)
    (reg.Escapes raised .outOfRange ∧ reg.parseUnit (some raised) = .error .outOfRange) ∧
    reg.Usable ∧ Plan.Moderate "degC m" ∧
      ∃ f, reg.parseUnit (some "degC m") = .error f ∧ f.OfUnitText := by
  intro reg raised
  have hfails : ∃ f, reg.parseUnit (some "degC m") = .error f := by
    have h : (reg.parseUnit (some "degC m")).isOk = false := by decide +kernel
    rcases Outcome.ok_or_error (reg.parseUnit (some "degC m")) with ⟨q, hq⟩ | hf
    · rw [hq] at h
      exact nomatch h
    · exact hf
  have hone : ∀ t ∈ (⟨[⟨none, "degC", 1⟩, ⟨none, "m", 1⟩], none⟩ : Plan).terms, t.2.InRange :=
    List.forall_mem_cons.mpr ⟨Or.inl rfl, List.forall_mem_singleton.mpr (Or.inl rfl)⟩
  have hmoderate : ∀ s, some "degC m" = some s → Plan.Moderate s := by
    rintro s hs
    obtain rfl := Option.some.inj hs
    exact Plan.moderate_of_read (by decide +kernel) hone
  obtain ⟨f, hf⟩ := hfails
  exact ⟨⟨escapes_raise_metre,
      (parseUnit_error reg (some raised)).2.1 raised _ rfl escapes_raise_metre⟩,
    usable_standard, hmoderate _ rfl, f, hf,
    (parseUnit_error reg (some "degC m")).2.2 usable_standard hmoderate f hf⟩

end Registry

end Quantities
