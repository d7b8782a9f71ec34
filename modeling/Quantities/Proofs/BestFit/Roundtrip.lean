import Quantities.Proofs.BestFit.Rendering
import Quantities.Proofs.Unit.Spelling

/-!
# Powers written and read again

The text of powers is a unit string, and what is read there are the powers, where the units are
single words (`UnitWord`): the positive powers are the terms before the slash, the negative ones
those behind it, each in the order of the powers. Units with the power zero are gone, and a number
one stands before the slash where there would be nothing.

* `UnitWord.reads`, `UnitWord.reads_termText`: a word, alone and with a power behind it, is read as
  itself.
* `sectionReads_sideText`: one side of the slash. `planOf` puts both sides together.

Main results:
* **`read_renderPowers`**: the text of powers is read as their plan.
* **`renderPowers_injective`**: the text says which powers there are, unless the number one is among
  the units.
-/

namespace Quantities

open BestFit

/-! ## Units that are single words -/

/-- A text has no characters that take a unit string apart or make it malformed. -/
def Unbroken (text : String) : Prop :=
  ∀ c ∈ text.toList, Text.isBlank c = false ∧ c ∉ delimiters

instance (text : String) : Decidable (Unbroken text) :=
  decidable_of_iff ((text.toList.all fun c => !Text.isBlank c && !delimiters.contains c) = true)
    (by simp [Unbroken])

/-- A unit that is a single word without a power: a prefix in brackets, if there is one, and a
symbol. -/
@[ext] structure UnitWord where
  bracket : Option String
  symbol : String
  plain : Unbroken (bracket.getD "")
  spellable : Spellable symbol

namespace UnitWord

variable {u v : UnitWord} {n : Nat} {c : Char}

/-- The word. -/
def text (u : UnitWord) : String :=
  match u.bracket with
  | none => u.symbol
  | some p => "[" ++ p ++ "]" ++ u.symbol

/-- The word as a term with a power. -/
def term (u : UnitWord) (n : Int) : Term := ⟨u.bracket, u.symbol, n⟩

/-- The number one. -/
def one : UnitWord := ⟨none, "1", by decide, by decide⟩

theorem term_injective {m n : Int} (h : u.term m = v.term n) : u = v ∧ m = n := by
  obtain ⟨hbracket, hsymbol, hpower⟩ := Term.mk.inj h
  exact ⟨UnitWord.ext hbracket hsymbol, hpower⟩

theorem toList_text (u : UnitWord) :
    u.text.toList = Term.bracketText (u.bracket.map String.toList) ++ u.symbol.toList := by
  unfold text
  cases u.bracket with
  | none => rfl
  | some p => simp [Term.bracketText]

theorem shape (u : UnitWord) :
    Term.Shape u.text.toList (u.bracket.map String.toList) u.symbol.toList none where
  text := by rw [u.toList_text, Term.powerText, List.append_nil]
  bracket cs hcs c hc := by
    obtain ⟨p, hp, rfl⟩ := Option.map_eq_some_iff.mp hcs
    have hplain := not_mem_delimiters.mp (u.plain c (by rwa [hp])).2
    exact ⟨hplain.2.1, hplain.2.2.1⟩
  ne_nil := u.spellable.toList_ne_nil
  symbol := u.spellable.shape.symbol

/-- Nothing in a word ends it or makes a unit string malformed. -/
theorem not_isBreak_of_mem_text (hc : c ∈ u.text.toList) :
    Plan.isBreak c = false ∧ c ≠ '/' ∧ c ≠ '(' ∧ c ≠ ')' := by
  rw [u.toList_text, List.mem_append] at hc
  rcases hc with hc | hc
  · cases hp : u.bracket with
    | none =>
      rw [hp] at hc
      exact absurd hc List.not_mem_nil
    | some p =>
      rw [hp] at hc
      simp only [Option.map_some, Term.bracketText, List.mem_cons, List.mem_append,
        List.not_mem_nil, or_false] at hc
      rcases hc with rfl | hc | rfl
      · decide
      · exact not_isBreak_of_plain (u.plain c (by rwa [hp]))
      · decide
  · exact not_isBreak_of_plain (u.spellable.plain c hc)

/-- A word is read as itself. -/
theorem reads (u : UnitWord) : Term.Reads u.text.toList (u.term 1) := by
  refine ⟨_, _, none, u.shape.split?, ?_, String.ofList_toList.symm, rfl⟩
  rw [Option.map_map]
  simp [term, Function.comp_def, String.ofList_toList]

theorem takesPower (u : UnitWord) : Term.takesPower u.text.toList = true := by
  rw [Term.takesPower, u.shape.split?]

/-- With a power behind it, it is read as that power of itself. -/
theorem reads_termText (u : UnitWord) (hpos : 0 < n)
    (hshort : (Nat.toDigits 10 n).length ≤ Term.digitLimit) :
    Term.Reads (termText u.text n).toList (u.term n) := by
  rw [toList_termText]
  split
  · rename_i h1
    rw [h1]
    exact u.reads
  · exact u.reads.raise u.takesPower hpos
      ((Nat.length_toDigits_le_iff (by decide) (by decide)).mp hshort)

theorem termText_ne_nil (u : UnitWord) (n : Nat) : (termText u.text n).toList ≠ [] := by
  have hne : u.text.toList ≠ [] := by
    rw [u.toList_text]
    exact List.append_ne_nil_of_right_ne_nil _ u.spellable.toList_ne_nil
  rw [toList_termText]
  split
  · exact hne
  · exact List.append_ne_nil_of_left_ne_nil hne _

/-- Nothing in a word with its power ends it either. -/
theorem not_isBreak_of_mem_termText (hc : c ∈ (termText u.text n).toList) :
    Plan.isBreak c = false ∧ c ≠ '/' ∧ c ≠ '(' ∧ c ≠ ')' := by
  rw [toList_termText] at hc
  split at hc
  · exact not_isBreak_of_mem_text hc
  · rcases List.mem_append.mp hc with hc | hc
    · exact not_isBreak_of_mem_text hc
    · exact ⟨Plan.not_isBreak_of_mem hc, Plan.plain_of_mem hc⟩

/-- A word with its power is a section of its own. -/
theorem sectionReads_termText (u : UnitWord) (hpos : 0 < n)
    (hshort : (Nat.toDigits 10 n).length ≤ Term.digitLimit) :
    Plan.SectionReads (termText u.text n).toList [u.term n] := by
  refine ⟨fun c hc => (not_isBreak_of_mem_termText hc).2, by simp, ?_⟩
  rw [Text.pieces_eq_singleton (fun c hc => (not_isBreak_of_mem_termText hc).1)
    (u.termText_ne_nil n)]
  exact .cons (u.reads_termText hpos hshort) .nil

end UnitWord

/-! ## The two sides -/

variable {powers powers' : List (UnitWord × Int)}

/-- The powers with the words written out. -/
def written (powers : List (UnitWord × Int)) : List (String × Int) :=
  powers.map fun c => (c.1.text, c.2)

theorem filter_written (f : Int → Bool) (powers : List (UnitWord × Int)) :
    (written powers).filter (fun c => f c.2) = written (powers.filter fun c => f c.2) := by
  simp only [written, List.filter_map, Function.comp_def]

/-- Some powers, or the number one if there are none. -/
def orOne (powers : List (UnitWord × Int)) : List (UnitWord × Int) :=
  if powers.isEmpty then [(.one, 1)] else powers

theorem orOne_ne_nil (powers : List (UnitWord × Int)) : orOne powers ≠ [] := by
  unfold orOne
  split
  · exact List.cons_ne_nil _ _
  · rename_i h
    simpa using h

theorem sideText_written (powers : List (UnitWord × Int)) : sideText (written powers) =
    " ".intercalate ((orOne powers).map fun c => termText c.1.text c.2.natAbs) := by
  cases powers with
  | nil => rfl
  | cons c powers =>
    rw [sideText_of_ne_nil (by simp [written]), written, List.map_map]
    rfl

/-- The power of a unit can be read where it has no more digits than are read. -/
def Readable (n : Int) : Prop := n ≠ 0 ∧ (Nat.toDigits 10 n.natAbs).length ≤ Term.digitLimit

theorem readable_orOne (h : ∀ c ∈ powers, Readable c.2) : ∀ c ∈ orOne powers, Readable c.2 := by
  unfold orOne
  split
  · rintro c hc
    rw [List.mem_singleton.mp hc]
    exact ⟨one_ne_zero, by decide⟩
  · exact h

/-- Words with blanks between them are one section. -/
theorem sectionReads_intercalate : ∀ {powers : List (UnitWord × Int)}, powers ≠ [] →
    (∀ c ∈ powers, Readable c.2) → Plan.SectionReads
      (" ".intercalate (powers.map fun c => termText c.1.text c.2.natAbs)).toList
      (powers.map fun c => c.1.term c.2.natAbs)
  | [], hne, _ => absurd rfl hne
  | [c], _, h => by
    obtain ⟨h0, hshort⟩ := h c List.mem_cons_self
    simpa using c.1.sectionReads_termText (Int.natAbs_pos.mpr h0) hshort
  | c :: b :: powers, _, h => by
    obtain ⟨⟨h0, hshort⟩, hrest⟩ := List.forall_mem_cons.mp h
    have hc := c.1.sectionReads_termText (Int.natAbs_pos.mpr h0) hshort
    have ih := sectionReads_intercalate (List.cons_ne_nil b powers) hrest
    rw [List.map_cons, toList_intercalate_cons _ (by simp)]
    exact hc.append ih

/-- **One side of the slash.** -/
theorem sectionReads_sideText (h : ∀ c ∈ powers, Readable c.2) :
    Plan.SectionReads (sideText (written powers)).toList
      ((orOne powers).map fun c => c.1.term c.2.natAbs) := by
  rw [sideText_written]
  exact sectionReads_intercalate (orOne_ne_nil powers) (readable_orOne h)

/-! ## Both sides -/

/-- What powers say as a plan: the positive ones before the slash, or the number one if there are
none, and the negative ones behind it, if there are any. -/
def planOf (powers : List (UnitWord × Int)) : Plan where
  numerator := (orOne (powers.filter fun c => 0 < c.2)).map fun c => c.1.term c.2
  denominator :=
    let below := powers.filter fun c => c.2 < 0
    if below.isEmpty then none else some (below.map fun c => c.1.term (-c.2))

theorem orOne_pos : ∀ c ∈ orOne (powers.filter fun c => 0 < c.2), 0 < c.2 := by
  unfold orOne
  split
  · rintro c hc
    rw [List.mem_singleton.mp hc]
    exact one_pos
  · exact fun c hc => by simpa using (List.mem_filter.mp hc).2

/-- The powers of one sign are readable. -/
theorem readable_filter {f : Int → Bool} (hf : f 0 = false)
    (h : ∀ c ∈ powers, (Nat.toDigits 10 c.2.natAbs).length ≤ Term.digitLimit) :
    ∀ c ∈ powers.filter (fun c => f c.2), Readable c.2 := by
  intro c hc
  obtain ⟨hmem, hc⟩ := List.mem_filter.mp hc
  refine ⟨fun h0 => ?_, h c hmem⟩
  rw [h0, hf] at hc
  exact nomatch hc

theorem reads_renderPowers
    (h : ∀ c ∈ powers, (Nat.toDigits 10 c.2.natAbs).length ≤ Term.digitLimit) :
    Plan.Reads (renderPowers (written powers)).toList (planOf powers) := by
  have habove := sectionReads_sideText (readable_filter (f := fun n => decide (0 < n)) rfl h)
  have hbelow := sectionReads_sideText (readable_filter (f := fun n => decide (n < 0)) rfl h)
  have hnum : (orOne (powers.filter fun c => 0 < c.2)).map (fun c => c.1.term c.2.natAbs) =
      (planOf powers).numerator :=
    List.map_congr_left fun c hc => congrArg c.1.term (Int.natAbs_of_nonneg (orOne_pos c hc).le)
  rw [hnum] at habove
  rw [toList_renderPowers, filter_written fun n => decide (0 < n),
    filter_written fun n => decide (n < 0)]
  by_cases hnil : powers.filter (fun c => c.2 < 0) = []
  · rw [if_pos (by rw [hnil]; rfl)]
    have hden : (planOf powers).denominator = none := by simp [planOf, hnil]
    have hproduct := Plan.Reads.product habove
    rwa [← hden] at hproduct
  · rw [if_neg (by simpa [written] using hnil)]
    have hden : (planOf powers).denominator =
        some ((orOne (powers.filter fun c => c.2 < 0)).map fun c => c.1.term c.2.natAbs) := by
      simp only [planOf, orOne, List.isEmpty_iff, if_neg hnil, Option.some.injEq]
      refine List.map_congr_left fun c hc => congrArg c.1.term ?_
      have hneg : c.2 < 0 := by simpa using (List.mem_filter.mp hc).2
      omega
    have hquotient := Plan.Reads.over (.product habove) (.product hbelow)
    rwa [← hden] at hquotient

/-- **Written and read again.** Let units be single words, and their powers of no more digits than
can be read. What is read in the text of the powers are the powers: the positive ones before the
slash and the negative ones, without their signs, behind it, both in the order they are given in. The
number one stands before the slash where there are no positive powers, there is no slash where there
are no negative ones, and powers that are zero are left out. -/
theorem read_renderPowers (powers : List (UnitWord × Int))
    (h : ∀ c ∈ powers, (Nat.toDigits 10 c.2.natAbs).length ≤ Term.digitLimit) :
    Plan.read (renderPowers (written powers)) = .ok (planOf powers) :=
  Plan.read_ok.mpr (reads_renderPowers h)

theorem read_renderPowers_jerk :
    let km : UnitWord := ⟨some "k", "m", by decide, by decide⟩
    let kelvin : UnitWord := ⟨none, "K", by decide, by decide⟩
    let s : UnitWord := ⟨none, "s", by decide, by decide⟩
    let powers := [(km, 1), (kelvin, 0), (s, -3)]
    (∀ c ∈ powers, (Nat.toDigits 10 c.2.natAbs).length ≤ Term.digitLimit) ∧
    renderPowers (written powers) = "[k]m / s^3" ∧
    Plan.read (renderPowers (written powers)) = .ok (planOf powers) ∧
    planOf powers = ⟨[⟨some "k", "m", 1⟩], some [⟨none, "s", 3⟩]⟩ := by
  intro km kelvin s powers
  have hshort : ∀ c ∈ powers, (Nat.toDigits 10 c.2.natAbs).length ≤ Term.digitLimit := by
    decide +kernel
  exact ⟨hshort, by decide +kernel, read_renderPowers powers hshort, by decide +kernel⟩

/-! ## What the text says -/

/-- Where the number one is no unit, it stands for nothing else. -/
theorem orOne_inj (h : ∀ c ∈ powers, c.1 ≠ .one) (h' : ∀ c ∈ powers', c.1 ≠ .one)
    (heq : orOne powers = orOne powers') : powers = powers' := by
  cases powers with
  | nil =>
    cases powers' with
    | nil => rfl
    | cons c ps => exact absurd (congrArg Prod.fst (List.cons.inj heq).1).symm (h' c (by simp))
  | cons c ps =>
    cases powers' with
    | nil => exact absurd (congrArg Prod.fst (List.cons.inj heq).1) (h c (by simp))
    | cons c' ps' => exact heq

/-- **The text says which powers there are.** Where two lists of powers have one text, and the number
one is not among their units, they have the same positive powers and the same negative ones, each in
the same order. -/
theorem renderPowers_injective
    (hshort : ∀ c ∈ powers, (Nat.toDigits 10 c.2.natAbs).length ≤ Term.digitLimit)
    (hshort' : ∀ c ∈ powers', (Nat.toDigits 10 c.2.natAbs).length ≤ Term.digitLimit)
    (h : ∀ c ∈ powers, c.1 ≠ .one) (h' : ∀ c ∈ powers', c.1 ≠ .one)
    (heq : renderPowers (written powers) = renderPowers (written powers')) :
    (powers.filter fun c => 0 < c.2) = (powers'.filter fun c => 0 < c.2) ∧
      (powers.filter fun c => c.2 < 0) = (powers'.filter fun c => c.2 < 0) := by
  have hread := Plan.read_ok.mpr (reads_renderPowers hshort)
  rw [heq, Plan.read_ok.mpr (reads_renderPowers hshort')] at hread
  obtain ⟨hnum, hden⟩ := Plan.mk.inj (Except.ok.inj hread).symm
  constructor
  · have hterm : Function.Injective fun c : UnitWord × Int => c.1.term c.2 := fun _ _ hc =>
      Prod.ext_iff.mpr (UnitWord.term_injective hc)
    exact orOne_inj (fun c hc => h c (List.mem_filter.mp hc).1)
      (fun c hc => h' c (List.mem_filter.mp hc).1) (List.map_injective_iff.mpr hterm hnum)
  · have hterm : Function.Injective fun c : UnitWord × Int => c.1.term (-c.2) := fun _ _ hc =>
      Prod.ext_iff.mpr ((UnitWord.term_injective hc).imp id neg_inj.mp)
    simp only at hden
    split_ifs at hden with hnil hnil' hnil'
    · rw [List.isEmpty_iff.mp hnil, List.isEmpty_iff.mp hnil']
    · exact List.map_injective_iff.mpr hterm (Option.some.inj hden)

end Quantities
