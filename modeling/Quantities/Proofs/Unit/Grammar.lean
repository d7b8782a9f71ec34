import Quantities.Proofs.Unit.Reading

/-!
# The grammar of unit strings

The grammar says how a unit string is put together from its parts; nothing in it mentions how the
string is taken apart.

* `Term.Spells`, `Plan.Spells`: a word of a shape (`Term.Shape`) spells a term, and a text a plan.
* `Term.PowerDefect`, `Term.Defect`, `Plan.SectionDefect`, `Plan.Defect`: what can be wrong, the
  kind of failure that it is, and the failure itself. All that stands before a defect is free of
  defects.
* **`Plan.read_iff_spells`**: exactly the texts that spell a plan are read, as that plan, and the
  others are refused for their first defect.
-/

namespace Quantities

/-! ## Words -/

namespace Term

/-- The power that the text behind a caret spells; without a caret it is one. -/
inductive PowerSpells : Option (List Char) → Int → Prop
  | absent : PowerSpells none 1
  | whole {cs ds : List Char} {n : Int} (h : Number.Whole cs ds n) (hshort : ds.length ≤ digitLimit)
      (h0 : n ≠ 0) : PowerSpells (some cs) n

/-- A word spells a term. -/
inductive Spells : List Char → Term → Prop
  | mk {word symbol : List Char} {bracket power : Option (List Char)} {n : Int}
      (shape : Shape word bracket symbol power) (h : PowerSpells power n) :
      Spells word ⟨bracket.map String.ofList, String.ofList symbol, n⟩

/-- What is wrong with the text behind a caret: it is no whole number, or zero, or too long. -/
inductive PowerDefect (text : String) (cs : List Char) : Failure.Kind → Failure → Prop
  | invalid (h : ∀ ds n, ¬ Number.Whole cs ds n) :
      PowerDefect text cs .invalidPower (.invalidPower (String.ofList cs) text)
  | zero {ds} (h : Number.Whole cs ds 0) (hshort : ds.length ≤ digitLimit) :
      PowerDefect text cs .invalidPower (.zeroPower text)
  | long {ds n} (h : Number.Whole cs ds n) (hlong : digitLimit < ds.length) :
      PowerDefect text cs .badValue .badValue

/-- What is wrong with a word of the unit string `text`: its shape, or what stands behind the caret
of a word in shape. -/
inductive Defect (text : String) (word : List Char) : Failure.Kind → Failure → Prop
  | shape (h : ∀ bracket symbol power, ¬ Shape word bracket symbol power) :
      Defect text word .malformedUnitText (.malformedTerm (String.ofList word) text)
  | power {bracket symbol cs k f} (shape : Shape word bracket symbol (some cs))
      (h : PowerDefect text cs k f) : Defect text word k f

variable {text : String} {word cs symbol : List Char} {bracket power : Option (List Char)}

theorem powerReads_iff {n : Int} : PowerReads power n ↔ PowerSpells power n := by
  cases power with
  | none =>
    constructor
    · rintro rfl
      exact .absent
    · rintro ⟨⟩
      rfl
  | some cs =>
    constructor
    · rintro ⟨hwhole, hshort, h0⟩
      exact .whole (Number.readWhole?_iff.mp ⟨hwhole, rfl⟩) hshort h0
    · rintro (_ | ⟨hwhole, hshort, h0⟩)
      obtain ⟨hread, rfl⟩ := Number.readWhole?_iff.mpr hwhole
      exact ⟨hread, hshort, h0⟩

/-- What a word spells is what it is read as. -/
theorem reads_iff {t : Term} : Reads word t ↔ Spells word t := by
  constructor
  · obtain ⟨bracket', symbol', n⟩ := t
    rintro ⟨bracket, symbol, power, hsplit, hb, hs, hp⟩
    simp only at hb hs hp
    subst hb hs
    exact .mk (split?_eq_some.mp hsplit) (powerReads_iff.mp hp)
  · rintro ⟨shape, hp⟩
    exact ⟨_, _, _, split?_eq_some.mpr shape, rfl, rfl, powerReads_iff.mpr hp⟩

variable {f : Failure} {k : Failure.Kind}

/-- The text behind the caret of a word in shape is what can be wrong with it. -/
theorem read_of_shape (shape : Shape word bracket symbol power) (text : String) :
    Term.read text word = (match power with | none => .ok 1 | some cs => readPower text cs) >>=
      fun n => .ok ⟨bracket.map String.ofList, String.ofList symbol, n⟩ :=
  read_eq (split?_eq_some.mpr shape) text

theorem read_caret_error (shape : Shape word bracket symbol (some cs)) :
    Term.read text word = .error f ↔ readPower text cs = .error f := by
  rw [read_of_shape shape, Outcome.bind_error]
  simp

theorem readPower_error : readPower text cs = .error f ∧ f.kind = k ↔ PowerDefect text cs k f := by
  unfold readPower
  constructor
  · rintro ⟨h, rfl⟩
    split at h
    · rename_i hwhole
      obtain rfl := Except.error.inj h
      refine .invalid fun ds n hds => ?_
      rw [(Number.readWhole?_iff.mpr hds).1] at hwhole
      exact nomatch hwhole
    rename_i n hn
    have hwhole := Number.readWhole?_iff.mp ⟨hn, rfl⟩
    split at h
    · rename_i hlong
      obtain rfl := Except.error.inj h
      exact .long hwhole hlong
    rename_i hshort
    split at h
    · rename_i h0
      obtain rfl := Except.error.inj h
      exact .zero (h0 ▸ hwhole) (not_lt.mp hshort)
    · exact nomatch h
  · rintro (h | ⟨h, hshort⟩ | ⟨h, hlong⟩)
    · refine ⟨?_, rfl⟩
      split
      · rfl
      · rename_i n hn
        exact absurd (Number.readWhole?_iff.mp ⟨hn, rfl⟩) (h _ n)
    · obtain ⟨hread, rfl⟩ := Number.readWhole?_iff.mpr h
      refine ⟨?_, rfl⟩
      rw [hread]
      simp only [if_neg (not_lt.mpr hshort), if_true]
    · obtain ⟨hread, rfl⟩ := Number.readWhole?_iff.mpr h
      refine ⟨?_, rfl⟩
      rw [hread]
      simp only [if_pos hlong]

/-- **A word is refused for what is wrong with it.** -/
theorem read_error : Term.read text word = .error f ∧ f.kind = k ↔ Defect text word k f := by
  constructor
  · rintro ⟨h, rfl⟩
    cases hsplit : split? word with
    | none =>
      unfold Term.read at h
      rw [hsplit] at h
      obtain rfl := Except.error.inj h
      refine .shape fun bracket symbol power shape => ?_
      exact absurd (hsplit.symm.trans shape.split?) (Option.some_ne_none _).symm
    | some parts =>
      obtain ⟨bracket, symbol, power⟩ := parts
      have shape := shape_of_split? hsplit
      cases power with
      | none =>
        rw [read_of_shape shape] at h
        exact nomatch h
      | some cs =>
        exact .power shape (readPower_error.mp ⟨(read_caret_error shape).mp h, rfl⟩)
  · rintro (h | ⟨shape, h⟩)
    · have hsplit : split? word = none :=
        Option.eq_none_iff_forall_ne_some.mpr fun parts hparts => h _ _ _ (shape_of_split? hparts)
      refine ⟨?_, rfl⟩
      unfold Term.read
      rw [hsplit]
    · obtain ⟨h, hk⟩ := readPower_error.mpr h
      exact ⟨(read_caret_error shape).mpr h, hk⟩

end Term

/-! ## Sections -/

namespace Plan

/-- A text without slashes and parentheses spells some terms, word by word. -/
structure SectionSpells (cs : List Char) (ts : List Term) : Prop where
  plain : IsSection cs
  ne_nil : ts ≠ []
  spells : List.Forall₂ Term.Spells (Text.words cs) ts

/-- What is wrong with a section of the unit string `text`: it has no words, or a word that is the
first one with a defect. -/
inductive SectionDefect (text : String) (cs : List Char) : Failure.Kind → Failure → Prop
  | empty (h : Text.words cs = []) :
      SectionDefect text cs .malformedUnitText (.emptySection text)
  | word {before rest : List (List Char)} {w : List Char} {k : Failure.Kind} {f : Failure}
      (hcs : Text.words cs = before ++ w :: rest) (hbefore : ∀ v ∈ before, ∃ t, Term.Spells v t)
      (h : Term.Defect text w k f) : SectionDefect text cs k f

variable {text : String} {cs : List Char} {ts : List Term} {p : Plan} {k : Failure.Kind}
  {f : Failure}

theorem sectionReads_iff : SectionReads cs ts ↔ SectionSpells cs ts := by
  have hspells : ∀ ws : List (List Char),
      List.Forall₂ Term.Reads ws ts ↔ List.Forall₂ Term.Spells ws ts := fun ws =>
    ⟨.imp fun _ _ => Term.reads_iff.mp, .imp fun _ _ => Term.reads_iff.mpr⟩
  constructor
  · intro h
    exact ⟨h.plain, h.ne_nil, words_eq h.plain ▸ (hspells _).mp h.reads⟩
  · intro h
    exact ⟨h.plain, h.ne_nil, (hspells _).mpr (words_eq h.plain ▸ h.spells)⟩

theorem readSection_spells (h : IsSection cs) :
    readSection text cs = .ok ts ↔ SectionSpells cs ts :=
  (readSection_ok h).trans sectionReads_iff

/-- **A section is refused for its first defect.** -/
theorem readSection_error :
    readSection text cs = .error f ∧ f.kind = k ↔ SectionDefect text cs k f := by
  have hword : ∀ w, (∃ t, Term.read text w = .ok t) ↔ ∃ t, Term.Spells w t := fun w => by
    simp only [Term.read_ok, Term.reads_iff]
  unfold readSection
  constructor
  · rintro ⟨h, rfl⟩
    split at h
    · rename_i hnil
      obtain rfl := Except.error.inj h
      exact .empty hnil
    · obtain ⟨before, w, rest, hcs, hbefore, hw⟩ := Outcome.mapM_error.mp h
      exact .word hcs (fun v hv => (hword v).mp (hbefore v hv)) (Term.read_error.mp ⟨hw, rfl⟩)
  · rintro (hnil | ⟨hcs, hbefore, h⟩)
    · rw [hnil]
      exact ⟨rfl, rfl⟩
    · obtain ⟨hw, hk⟩ := Term.read_error.mpr h
      rw [hcs]
      refine ⟨?_, hk⟩
      split
      · rename_i hnil
        exact absurd hnil (by simp)
      · exact Outcome.mapM_error.mpr ⟨_, _, _, rfl, fun v hv => (hword v).mpr (hbefore v hv), hw⟩

/-! ## Plans -/

/-- A text spells a plan: it is one section, or two with a slash between them. -/
inductive Spells : List Char → Plan → Prop
  | product {cs : List Char} {ts : List Term} (h : SectionSpells cs ts) : Spells cs ⟨ts, none⟩
  | quotient {a b : List Char} {ts us : List Term} (ha : SectionSpells a ts)
      (hb : SectionSpells b us) : Spells (a ++ '/' :: b) ⟨ts, some us⟩

/-- What is wrong with a unit string: a parenthesis, a second slash, or a section that is the first
one with a defect. -/
inductive Defect (text : String) : Failure.Kind → Failure → Prop
  | parenthesis (h : '(' ∈ text.toList ∨ ')' ∈ text.toList) :
      Defect text .malformedUnitText (.parenthesis text)
  | slashes (hparen : '(' ∉ text.toList ∧ ')' ∉ text.toList) (h : 1 < text.toList.count '/') :
      Defect text .malformedUnitText (.manySlashes text)
  | product {k : Failure.Kind} {f : Failure} (hplain : IsSection text.toList)
      (h : SectionDefect text text.toList k f) : Defect text k f
  | numerator {a b : List Char} {k : Failure.Kind} {f : Failure} (hab : text.toList = a ++ '/' :: b)
      (ha : IsSection a) (hb : IsSection b) (h : SectionDefect text a k f) : Defect text k f
  | denominator {a b : List Char} {ts : List Term} {k : Failure.Kind} {f : Failure}
      (hab : text.toList = a ++ '/' :: b) (ha : SectionSpells a ts) (hb : IsSection b)
      (h : SectionDefect text b k f) : Defect text k f

theorem reads_iff : Reads cs p ↔ Spells cs p := by
  constructor
  · intro h
    cases h with
    | product h => exact .product (sectionReads_iff.mp h)
    | quotient ha hb => exact .quotient (sectionReads_iff.mp ha) (sectionReads_iff.mp hb)
  · intro h
    cases h with
    | product h => exact .product (sectionReads_iff.mpr h)
    | quotient ha hb => exact .quotient (sectionReads_iff.mpr ha) (sectionReads_iff.mpr hb)

theorem read_defect (h : Plan.read text = .error f) : Defect text f.kind f := by
  rcases section_cases text.toList with hp | ⟨hp, hs⟩ | hsec | ⟨a, b, hab, ha, hb⟩
  · rw [read_parenthesis hp] at h
    obtain rfl := Except.error.inj h
    exact .parenthesis hp
  · rw [read_manySlashes hp hs] at h
    obtain rfl := Except.error.inj h
    exact .slashes hp hs
  · rw [read_product hsec] at h
    rcases Outcome.bind_error.mp h with h | ⟨_, _, h⟩
    · exact .product hsec (readSection_error.mp ⟨h, rfl⟩)
    · exact nomatch h
  · rw [read_quotient hab ha hb] at h
    rcases Outcome.bind_error.mp h with h | ⟨ts, hts, h⟩
    · exact .numerator hab ha hb (readSection_error.mp ⟨h, rfl⟩)
    rcases Outcome.bind_error.mp h with h | ⟨_, _, h⟩
    · exact .denominator hab ((readSection_spells ha).mp hts) hb (readSection_error.mp ⟨h, rfl⟩)
    · exact nomatch h

theorem Defect.read (h : Defect text k f) : Plan.read text = .error f ∧ f.kind = k := by
  cases h with
  | parenthesis hp => exact ⟨read_parenthesis hp, rfl⟩
  | slashes hp hs => exact ⟨read_manySlashes hp hs, rfl⟩
  | product hsec h =>
    obtain ⟨h, hk⟩ := readSection_error.mpr h
    rw [read_product hsec]
    exact ⟨Outcome.bind_error.mpr (Or.inl h), hk⟩
  | numerator hab ha hb h =>
    obtain ⟨h, hk⟩ := readSection_error.mpr h
    rw [read_quotient hab ha hb]
    exact ⟨Outcome.bind_error.mpr (Or.inl h), hk⟩
  | denominator hab ha hb h =>
    obtain ⟨h, hk⟩ := readSection_error.mpr h
    rw [read_quotient hab ha.plain hb]
    refine ⟨Outcome.bind_error.mpr (Or.inr ⟨_, (readSection_spells ha.plain).mpr ha, ?_⟩), hk⟩
    exact Outcome.bind_error.mpr (Or.inl h)

/-- **The grammar.** Exactly the texts that spell a plan are read, as that plan; the others are
refused for their first defect. -/
theorem read_iff_spells (text : String) : (∀ p, Plan.read text = .ok p ↔ Spells text.toList p) ∧
    ∀ f k, Plan.read text = .error f ∧ f.kind = k ↔ Defect text k f := by
  refine ⟨fun p => read_ok.trans reads_iff, fun f k => ⟨?_, Defect.read⟩⟩
  rintro ⟨h, rfl⟩
  exact read_defect h

end Plan

end Quantities
