import Quantities.Proofs.Number.Digits
import Quantities.Proofs.Outcome
import Quantities.Proofs.Text.Words
import Quantities.Proofs.Unit.Shape

/-!
# How unit strings are read

* `Term.Reads`: a word denotes a term, whatever the unit string around it (`Term.read_ok`).
* `Plan.Reads`: a text denotes a plan, as one section or as two with a slash between them, and each
  section word by word. `Plan.read_ok` says that this is what is read.

Texts put together:
* `Reads.product_append`, `Reads.quotient_append`, `Reads.over`: two texts next to each other, and
  two texts with a slash between them. What stands behind a slash stays behind it.
* `Term.split?_append`: a caret and more text behind a word become its power, or a part of the power
  that it has. So a power can be written behind a text exactly when its last word has none
  (`Term.takesPower`, `takesPower_of_word`).
* **`Reads.raise`**: a power behind a text raises its last term, and no other.
-/

namespace Quantities

/-! ## Words -/

namespace Term

/-- Digits with a sign denote a power, not zero. -/
structure IsPower (cs : List Char) (n : Int) : Prop where
  whole : Number.readWhole? cs = some n
  short : (Number.signOf cs).2.length ≤ digitLimit
  ne_zero : n ≠ 0

theorem readPower_ok {text : String} {cs : List Char} {n : Int} :
    readPower text cs = .ok n ↔ IsPower cs n := by
  unfold readPower
  constructor
  · intro h
    cases hw : Number.readWhole? cs with
    | none => rw [hw] at h; exact nomatch h
    | some m =>
      rw [hw] at h
      simp only at h
      split_ifs at h with hlong h0
      obtain rfl := Except.ok.inj h
      exact ⟨hw, not_lt.mp hlong, h0⟩
  · rintro ⟨hw, hshort, h0⟩
    rw [hw]
    simp only
    rw [if_neg (not_lt.mpr hshort), if_neg h0]

/-- The power that the text behind a caret denotes; there may be no caret. -/
def PowerReads (power : Option (List Char)) (n : Int) : Prop :=
  match power with
  | none => n = 1
  | some cs => IsPower cs n

/-- The parts of a word denote the parts of a term. -/
def Reads (word : List Char) (t : Term) : Prop :=
  ∃ bracket symbol power, split? word = some (bracket, symbol, power) ∧
    t.bracket = bracket.map String.ofList ∧ t.symbol = String.ofList symbol ∧
      PowerReads power t.power

theorem read_eq {word symbol : List Char} {bracket power : Option (List Char)}
    (h : split? word = some (bracket, symbol, power)) (text : String) : Term.read text word =
      (match power with | none => .ok 1 | some cs => readPower text cs) >>= fun n =>
        .ok ⟨bracket.map String.ofList, String.ofList symbol, n⟩ := by
  unfold Term.read
  rw [h]
  cases power <;> rfl

/-- What a word denotes does not depend on the unit string around it. -/
theorem read_ok {text : String} {word : List Char} {t : Term} :
    Term.read text word = .ok t ↔ Reads word t := by
  cases hs : split? word with
  | none =>
    unfold Term.read Reads
    rw [hs]
    constructor
    · intro h
      exact nomatch h
    · rintro ⟨_, _, _, h, _⟩
      exact nomatch h
  | some parts =>
    obtain ⟨bracket, symbol, power⟩ := parts
    have hpower : ∀ n : Int, (match power with
        | none => Except.ok 1
        | some cs => readPower text cs) = .ok n ↔ PowerReads power n := fun n => by
      cases power with
      | none => exact ⟨fun h => (Except.ok.inj h).symm, fun h => h ▸ rfl⟩
      | some cs => exact readPower_ok
    rw [read_eq hs, Outcome.bind_ok]
    constructor
    · rintro ⟨n, hn, h⟩
      obtain rfl := Except.ok.inj h
      exact ⟨bracket, symbol, power, hs, rfl, rfl, (hpower n).mp hn⟩
    · rintro ⟨_, _, _, h, hb, hsym, hp⟩
      rw [hs] at h
      simp only [Option.some.injEq, Prod.mk.injEq] at h
      obtain ⟨rfl, rfl, rfl⟩ := h
      exact ⟨t.power, (hpower t.power).mpr hp, by rw [← hb, ← hsym]⟩

/-! ## Words with a power behind them -/

/-- Has the word a symbol and no power of its own? -/
def takesPower (word : List Char) : Bool :=
  match split? word with
  | some (_, _, none) => true
  | _ => false

/-- A caret and more text behind a word become its power, or a part of the power that it has. -/
theorem split?_append {w s : List Char} {bracket power : Option (List Char)}
    (h : split? w = some (bracket, s, power)) (ds : List Char) :
    split? (w ++ '^' :: ds) =
      some (bracket, s, some (power.elim ds fun cs => cs ++ '^' :: ds)) := by
  obtain ⟨rfl, hbracket, hne, hsymbol⟩ := shape_of_split? h
  refine Shape.split? ⟨?_, hbracket, hne, hsymbol⟩
  cases power with
  | none => rw [powerText, List.append_nil, Option.elim_none, powerText]
  | some cs => rw [List.append_assoc]; rfl

/-- A power written behind a word that takes one. -/
theorem Reads.raise {w : List Char} {t : Term} (h : Reads w t) (hw : takesPower w = true) {n : Nat}
    (hpos : 0 < n) (hn : n < 10 ^ digitLimit) :
    Reads (w ++ '^' :: Nat.toDigits 10 n) { t with power := n } := by
  obtain ⟨bracket, symbol, power, hs, hb, hsym, -⟩ := h
  rw [takesPower, hs] at hw
  cases power with
  | some cs => exact nomatch hw
  | none =>
    refine ⟨bracket, symbol, _, split?_append hs _, hb, hsym, Number.readWhole?_toDigits n, ?_, ?_⟩
    · rw [Option.elim_none, Number.signOf_toDigits]
      exact (Nat.length_toDigits_le_iff (by decide) (by decide)).mpr hn
    · simp only
      omega

theorem Reads.power_eq_one {w : List Char} {t : Term} (h : Reads w t) (hw : takesPower w = true) :
    t.power = 1 := by
  obtain ⟨bracket, symbol, power, hs, -, -, hp⟩ := h
  rw [takesPower, hs] at hw
  cases power with
  | none => exact hp
  | some cs => exact nomatch hw

/-- No power can be written behind a word that has one. -/
theorem takesPower_of_reads {w ds : List Char} {t t' : Term} (h : Reads w t)
    (h' : Reads (w ++ '^' :: ds) t') : takesPower w = true := by
  obtain ⟨bracket, symbol, power, hs, -, -, -⟩ := h
  rw [takesPower, hs]
  cases power with
  | none => rfl
  | some cs =>
    obtain ⟨_, _, _, hs', -, -, hp⟩ := h'
    rw [split?_append hs] at hs'
    simp only [Option.elim_some, Option.some.injEq, Prod.mk.injEq] at hs'
    obtain ⟨-, -, rfl⟩ := hs'
    have hnone : Number.readWhole? (cs ++ '^' :: ds) = none :=
      Number.readWhole?_eq_none (c := '^') (by decide) (by decide) (by simp)
    rw [PowerReads] at hp
    exact absurd hp.whole (by rw [hnone]; simp)

/-- Two readings of a word are the same. -/
theorem Reads.unique {w : List Char} {t t' : Term} (h : Reads w t) (h' : Reads w t') : t = t' := by
  have hread : Term.read "" w = .ok t := read_ok.mpr h
  exact Except.ok.inj (hread.symm.trans (read_ok.mpr h'))

/-- What is written behind a caret changes neither the bracket nor the symbol. -/
theorem same_of_reads_append {w ds : List Char} {t t' : Term} (h : Reads w t)
    (h' : Reads (w ++ '^' :: ds) t') : t'.bracket = t.bracket ∧ t'.symbol = t.symbol := by
  obtain ⟨bracket, symbol, power, hs, hb, hsym, -⟩ := h
  obtain ⟨_, _, _, hs', hb', hsym', -⟩ := h'
  rw [split?_append hs, Option.some.injEq, Prod.mk.injEq, Prod.mk.injEq] at hs'
  obtain ⟨rfl, rfl, -⟩ := hs'
  exact ⟨hb'.trans hb.symm, hsym'.trans hsym.symm⟩

/-- A word of a power alone denotes nothing. -/
theorem not_reads_caret {ds : List Char} {t : Term} : ¬ Reads ('^' :: ds) t := by
  rintro ⟨_, _, _, h, -⟩
  simp [split?, splitBracket?, isSymbolic] at h

end Term

/-! ## Sections -/

namespace Plan

open Text (pieces tail)

/-- Does the character end a word of a unit string? -/
def isBreak (c : Char) : Bool := Text.isBlank c || c == '/'

/-- A text without slashes and parentheses, which is one section of a unit string. -/
def IsSection (cs : List Char) : Prop := ∀ c ∈ cs, c ≠ '/' ∧ c ≠ '(' ∧ c ≠ ')'

/-- A text without slashes and parentheses is read as some terms. -/
structure SectionReads (cs : List Char) (ts : List Term) : Prop where
  plain : ∀ c ∈ cs, c ≠ '/' ∧ c ≠ '(' ∧ c ≠ ')'
  ne_nil : ts ≠ []
  reads : List.Forall₂ Term.Reads (pieces isBreak cs) ts

variable {text : String} {a b cs ds w : List Char} {ts us : List Term} {p q : Plan}

theorem words_eq (h : IsSection cs) :
    Text.words cs = pieces isBreak cs := by
  rw [Text.words_eq_pieces]
  refine Text.pieces_congr fun c hc => ?_
  rw [isBreak, beq_eq_false_iff_ne.mpr (h c hc).1, Bool.or_false]

theorem readSection_ok (h : IsSection cs) :
    readSection text cs = .ok ts ↔ SectionReads cs ts := by
  have hmap : (pieces isBreak cs).mapM (Term.read text) = .ok ts ↔
      List.Forall₂ Term.Reads (pieces isBreak cs) ts := by
    rw [Outcome.mapM_ok]
    simp only [Term.read_ok]
  unfold readSection
  rw [words_eq h]
  constructor
  · intro hread
    split at hread
    · exact nomatch hread
    · rename_i hne
      refine ⟨h, ?_, hmap.mp hread⟩
      rintro rfl
      exact hne (List.forall₂_nil_right_iff.mp (hmap.mp hread))
  · intro hread
    split
    · rename_i hnil
      have := hread.reads
      rw [hnil, List.forall₂_nil_left_iff] at this
      exact absurd this hread.ne_nil
    · exact hmap.mpr hread.reads

theorem isBreak_blank : isBreak ' ' = true := by decide

/-- Two sections next to each other are one. -/
theorem SectionReads.append (ha : SectionReads a ts) (hb : SectionReads b us) :
    SectionReads (a ++ ' ' :: b) (ts ++ us) := by
  refine ⟨fun c hc => ?_, by simp [ha.ne_nil], ?_⟩
  · rcases List.mem_append.mp hc with hc | hc
    · exact ha.plain c hc
    · rcases List.mem_cons.mp hc with rfl | hc
      · decide
      · exact hb.plain c hc
  · rw [Text.pieces_append_cons isBreak_blank]
    exact List.rel_append ha.reads hb.reads

theorem SectionReads.blank_after (h : SectionReads cs ts) : SectionReads (cs ++ [' ']) ts := by
  refine ⟨fun c hc => ?_, h.ne_nil, ?_⟩
  · rcases List.mem_append.mp hc with hc | hc
    · exact h.plain c hc
    · rw [List.mem_singleton.mp hc]; decide
  · rw [Text.pieces_append_cons isBreak_blank, Text.pieces_nil, List.append_nil]
    exact h.reads

theorem SectionReads.blank_before (h : SectionReads cs ts) : SectionReads (' ' :: cs) ts := by
  refine ⟨fun c hc => ?_, h.ne_nil, ?_⟩
  · rcases List.mem_cons.mp hc with rfl | hc
    · decide
    · exact h.plain c hc
  · rw [← List.nil_append (' ' :: cs), Text.pieces_append_cons isBreak_blank, Text.pieces_nil,
      List.nil_append]
    exact h.reads

theorem SectionReads.exists_word (h : SectionReads cs ts) : ∃ w, w ∈ pieces isBreak cs := by
  refine List.exists_mem_of_ne_nil _ fun hnil => h.ne_nil ?_
  have hreads := h.reads
  rw [hnil] at hreads
  exact List.forall₂_nil_left_iff.mp hreads

theorem SectionReads.word (h : SectionReads cs ts) (hw : w ∈ pieces isBreak cs) :
    ∃ t ∈ ts, Term.Reads w t :=
  Outcome.exists_partner h.reads hw

/-! ## Plans -/

/-- A text is read as a plan. -/
inductive Reads : List Char → Plan → Prop
  | product {cs : List Char} {ts : List Term} (h : SectionReads cs ts) : Reads cs ⟨ts, none⟩
  | quotient {a b : List Char} {ts us : List Term} (ha : SectionReads a ts)
      (hb : SectionReads b us) : Reads (a ++ '/' :: b) ⟨ts, some us⟩

theorem IsSection.not_mem_slash (h : IsSection cs) : '/' ∉ cs := fun hc => (h _ hc).1 rfl

/-- A text has a parenthesis, or several slashes, or it is one section, or two sections with a slash
between them. -/
theorem section_cases (cs : List Char) :
    ('(' ∈ cs ∨ ')' ∈ cs) ∨ (('(' ∉ cs ∧ ')' ∉ cs) ∧ 1 < cs.count '/') ∨ IsSection cs ∨
      ∃ a b, cs = a ++ '/' :: b ∧ IsSection a ∧ IsSection b := by
  by_cases hparen : '(' ∈ cs ∨ ')' ∈ cs
  · exact Or.inl hparen
  have hplain : ∀ {ds : List Char}, (∀ c ∈ ds, c ∈ cs) → '/' ∉ ds → IsSection ds :=
    fun hsub hslash c hc => ⟨fun e => hslash (e ▸ hc), fun e => hparen (Or.inl (e ▸ hsub c hc)),
      fun e => hparen (Or.inr (e ▸ hsub c hc))⟩
  rw [not_or] at hparen
  by_cases h : '/' ∈ cs
  · obtain ⟨a, b, hcs, ha⟩ := List.eq_append_cons_of_mem h
    by_cases hb : '/' ∈ b
    · refine Or.inr (Or.inl ⟨hparen, ?_⟩)
      rw [hcs, List.count_append, List.count_cons_self]
      have := List.count_pos_iff.mpr hb
      omega
    · exact Or.inr (Or.inr (Or.inr ⟨a, b, hcs, hplain (by simp +contextual [hcs]) ha,
        hplain (by simp +contextual [hcs]) hb⟩))
  · exact Or.inr (Or.inr (Or.inl (hplain (fun _ hc => hc) h)))

theorem length_splitOn (c : Char) : ∀ cs : List Char, (cs.splitOn c).length = cs.count c + 1
  | [] => rfl
  | x :: cs => by
    rw [List.splitOn_cons_eq_if_modifyHead, List.count_cons]
    split
    · rw [List.length_cons, length_splitOn c cs]
    · rw [List.length_modifyHead, length_splitOn c cs, Nat.add_zero]

theorem read_parenthesis (h : '(' ∈ text.toList ∨ ')' ∈ text.toList) :
    Plan.read text = .error (.parenthesis text) := by
  unfold Plan.read
  rw [if_pos]
  rcases h with h | h
  · exact List.any_eq_true.mpr ⟨_, h, rfl⟩
  · exact List.any_eq_true.mpr ⟨_, h, rfl⟩

theorem read_manySlashes (hparen : '(' ∉ text.toList ∧ ')' ∉ text.toList)
    (h : 1 < text.toList.count '/') : Plan.read text = .error (.manySlashes text) := by
  have hlen := length_splitOn '/' text.toList
  have hany : ¬ (text.toList.any fun c => c == '(' || c == ')') = true := by
    grind [List.any_eq_true]
  unfold Plan.read
  rw [if_neg hany]
  split
  · rename_i hsplit
    rw [hsplit, List.length_singleton] at hlen
    omega
  · rename_i hsplit
    rw [hsplit, List.length_cons, List.length_singleton] at hlen
    omega
  · rfl

/-- One section is read as a product. -/
theorem read_product (h : IsSection text.toList) :
    Plan.read text = readSection text text.toList >>= fun ts => .ok ⟨ts, none⟩ := by
  unfold Plan.read
  rw [if_neg (by simpa [not_or] using fun c hc => (h c hc).2),
    List.splitOn_eq_singleton h.not_mem_slash]

/-- Two sections are read as a quotient, the first one before the second. -/
theorem read_quotient (hab : text.toList = a ++ '/' :: b) (ha : IsSection a) (hb : IsSection b) :
    Plan.read text = readSection text a >>= fun ts => readSection text b >>= fun us =>
      .ok ⟨ts, some us⟩ := by
  have hparen : ∀ c ∈ text.toList, c ≠ '(' ∧ c ≠ ')' := by
    rw [hab]
    simp only [List.mem_append, List.mem_cons]
    rintro c (hc | rfl | hc)
    · exact (ha c hc).2
    · decide
    · exact (hb c hc).2
  unfold Plan.read
  rw [if_neg (by simpa [not_or] using hparen), hab,
    List.splitOn_append_cons_self_of_not_mem ha.not_mem_slash,
    List.splitOn_eq_singleton hb.not_mem_slash]

theorem SectionReads.not_mem_slash (h : SectionReads cs ts) : '/' ∉ cs :=
  IsSection.not_mem_slash h.plain

/-- **What is read.** A unit string is read as a plan when its sections are read as the terms. -/
theorem read_ok : Plan.read text = .ok p ↔ Reads text.toList p := by
  constructor
  · intro h
    rcases section_cases text.toList with hp | ⟨hp, hs⟩ | hsec | ⟨a, b, hab, ha, hb⟩
    · rw [read_parenthesis hp] at h
      exact nomatch h
    · rw [read_manySlashes hp hs] at h
      exact nomatch h
    · rw [read_product hsec] at h
      obtain ⟨ts, hts, h⟩ := Outcome.bind_ok.mp h
      obtain rfl := Except.ok.inj h
      exact .product ((readSection_ok hsec).mp hts)
    · rw [read_quotient hab ha hb] at h
      obtain ⟨ts, hts, h⟩ := Outcome.bind_ok.mp h
      obtain ⟨us, hus, h⟩ := Outcome.bind_ok.mp h
      obtain rfl := Except.ok.inj h
      rw [hab]
      exact .quotient ((readSection_ok ha).mp hts) ((readSection_ok hb).mp hus)
  · intro h
    generalize hcs : text.toList = cs at h
    cases h with
    | product h =>
      rw [read_product (hcs ▸ h.plain), hcs]
      exact Outcome.bind_ok.mpr ⟨_, (readSection_ok h.plain).mpr h, rfl⟩
    | quotient ha hb =>
      rw [read_quotient hcs ha.plain hb.plain]
      refine Outcome.bind_ok.mpr ⟨_, (readSection_ok ha.plain).mpr ha, ?_⟩
      exact Outcome.bind_ok.mpr ⟨_, (readSection_ok hb.plain).mpr hb, rfl⟩

/-- There is a slash in the text when there is one in the plan, and never a second one. -/
theorem Reads.count_slash (h : Reads cs p) :
    cs.count '/' = if p.denominator.isSome then 1 else 0 := by
  cases h with
  | product h => exact List.count_eq_zero.mpr h.not_mem_slash
  | quotient ha hb =>
    rw [List.count_append, List.count_cons_self, List.count_eq_zero.mpr ha.not_mem_slash,
      List.count_eq_zero.mpr hb.not_mem_slash]
    rfl

/-- What is read has words. -/
theorem Reads.exists_word (h : Reads cs p) : ∃ w, w ∈ pieces isBreak cs := by
  cases h with
  | product h => exact h.exists_word
  | quotient ha hb =>
    obtain ⟨w, hw⟩ := ha.exists_word
    rw [Text.pieces_append_cons (by decide)]
    exact ⟨w, List.mem_append_left _ hw⟩

/-- All words of what is read are read, as terms of the plan. -/
theorem Reads.word (h : Reads cs p) (hw : w ∈ pieces isBreak cs) :
    ∃ t ∈ p.terms, Term.Reads w t.2 := by
  cases h with
  | product h =>
    obtain ⟨t, ht, hreads⟩ := h.word hw
    exact ⟨(false, t), by simp [Plan.terms, ht], hreads⟩
  | quotient ha hb =>
    rw [Text.pieces_append_cons (by decide)] at hw
    rcases List.mem_append.mp hw with hw | hw
    · obtain ⟨t, ht, hreads⟩ := ha.word hw
      exact ⟨(false, t), by simp [Plan.terms, ht], hreads⟩
    · obtain ⟨t, ht, hreads⟩ := hb.word hw
      exact ⟨(true, t), by simp [Plan.terms, ht], hreads⟩

/-! ## Texts put together -/

/-- A product before another text. -/
theorem Reads.product_append (ha : Reads a ⟨ts, none⟩) (hb : Reads b q) :
    Reads (a ++ ' ' :: b) ⟨ts ++ q.numerator, q.denominator⟩ := by
  cases ha with
  | product ha =>
    cases hb with
    | product hb => exact .product (ha.append hb)
    | quotient hb hc =>
      rw [← List.cons_append, ← List.append_assoc]
      exact .quotient (ha.append hb) hc

/-- A quotient before a product, which is divided by as well. -/
theorem Reads.quotient_append {ds : List Term} (ha : Reads a ⟨ts, some ds⟩)
    (hb : Reads b ⟨us, none⟩) : Reads (a ++ ' ' :: b) ⟨ts, some (ds ++ us)⟩ := by
  cases hb with
  | product hb =>
    cases ha with
    | quotient ha hd =>
      rw [List.append_assoc, List.cons_append]
      exact .quotient ha (hd.append hb)

/-- A product over a product. -/
theorem Reads.over (ha : Reads a ⟨ts, none⟩) (hb : Reads b ⟨us, none⟩) :
    Reads (a ++ ' ' :: '/' :: ' ' :: b) ⟨ts, some us⟩ := by
  cases ha with
  | product ha =>
    cases hb with
    | product hb =>
      have := Reads.quotient ha.blank_after hb.blank_before
      rwa [List.append_assoc] at this

theorem not_isBreak_of_mem {n : Nat} {c : Char} (hc : c ∈ '^' :: Nat.toDigits 10 n) :
    isBreak c = false := by
  rcases List.mem_cons.mp hc with rfl | hc
  · decide
  · have hd := Number.toNat_of_isDigit (Number.isDigit_of_mem_toDigits hc)
    have hslash : c ≠ '/' := Number.ne_of_isDigit (Number.isDigit_of_mem_toDigits hc) (by decide)
    simp only [isBreak, Text.isBlank, Bool.or_eq_false_iff, Bool.and_eq_false_iff,
      decide_eq_false_iff_not, beq_eq_false_iff_ne]
    refine ⟨?_, hslash⟩
    omega

theorem plain_of_mem {n : Nat} {c : Char} (hc : c ∈ '^' :: Nat.toDigits 10 n) :
    c ≠ '/' ∧ c ≠ '(' ∧ c ≠ ')' := by
  rcases List.mem_cons.mp hc with rfl | hc
  · decide
  · have hd := Number.isDigit_of_mem_toDigits hc
    exact ⟨Number.ne_of_isDigit hd (by decide), Number.ne_of_isDigit hd (by decide),
      Number.ne_of_isDigit hd (by decide)⟩

theorem forall₂_concat {β γ : Type} {r : β → γ → Prop} {bs : List β} {x : β} {cs : List γ} :
    List.Forall₂ r (bs ++ [x]) cs ↔ ∃ cs' y, cs = cs' ++ [y] ∧ List.Forall₂ r bs cs' ∧ r x y := by
  rw [← List.forall₂_reverse_iff, List.reverse_append, List.reverse_singleton,
    List.singleton_append, List.forall₂_cons_left_iff]
  constructor
  · rintro ⟨y, cs', hr, h, hcs⟩
    refine ⟨cs'.reverse, y, ?_, ?_, hr⟩
    · rw [← List.reverse_cons, ← hcs, List.reverse_reverse]
    · rw [← List.forall₂_reverse_iff, List.reverse_reverse]
      exact h
  · rintro ⟨cs', y, rfl, h, hr⟩
    exact ⟨y, cs'.reverse, hr, List.forall₂_reverse_iff.mpr h, by simp⟩

/-- The powers of the last of some terms, one and `n`. -/
theorem SectionReads.raise (h : SectionReads cs ts)
    (ht : Term.takesPower (tail isBreak cs) = true) {n : Nat} (hpos : 0 < n)
    (hn : n < 10 ^ Term.digitLimit) : ∃ before t, ts = before ++ [t] ∧ t.power = 1 ∧
      SectionReads (cs ++ '^' :: Nat.toDigits 10 n) (before ++ [{ t with power := n }]) := by
  obtain ⟨before, hcs, hraised⟩ := Text.pieces_append (p := isBreak) cs
    (fun c hc => not_isBreak_of_mem (n := n) hc) (by simp)
  have htail : tail isBreak cs ≠ [] := by
    intro hnil
    rw [hnil] at ht
    exact nomatch ht
  have hreads := h.reads
  rw [hcs, if_neg htail, forall₂_concat] at hreads
  obtain ⟨ts', t, rfl, hts', hlast⟩ := hreads
  refine ⟨ts', t, rfl, hlast.power_eq_one ht, fun c hc => ?_, by simp, ?_⟩
  · exact (List.mem_append.mp hc).elim (h.plain c) plain_of_mem
  · rw [hraised]
    exact forall₂_concat.mpr ⟨ts', _, rfl, hts', hlast.raise ht hpos hn⟩

/-- **A power behind a text.** It raises the last term only. -/
theorem Reads.raise (h : Reads cs p) (ht : Term.takesPower (tail isBreak cs) = true) {n : Nat}
    (hpos : 0 < n) (hn : n < 10 ^ Term.digitLimit) :
    ∃ p' before t, Reads (cs ++ '^' :: Nat.toDigits 10 n) p' ∧
      p'.denominator.isSome = p.denominator.isSome ∧ t.2.power = 1 ∧ p.terms = before ++ [t] ∧
        p'.terms = before ++ [(t.1, { t.2 with power := n })] := by
  cases h with
  | product h =>
    obtain ⟨before, t, rfl, h1, hr⟩ := h.raise ht hpos hn
    exact ⟨_, before.map fun t => (false, t), (false, t), .product hr, rfl, h1,
      by simp [Plan.terms], by simp [Plan.terms]⟩
  | @quotient a b ts us ha hb =>
    rw [Text.tail_append_cons (by decide)] at ht
    obtain ⟨before, t, rfl, h1, hr⟩ := hb.raise ht hpos hn
    refine ⟨⟨ts, some (before ++ [{ t with power := n }])⟩,
      ts.map (fun t => (false, t)) ++ before.map fun t => (true, t), (true, t), ?_, rfl, h1,
      by simp [Plan.terms], by simp [Plan.terms]⟩
    rw [List.append_assoc, List.cons_append]
    exact .quotient ha hr

/-- Only a text that takes a power is read with one behind it. -/
theorem takesPower_of_word (h : Reads cs p)
    (hw : ∀ w ∈ pieces isBreak (cs ++ '^' :: ds), ∃ t, Term.Reads w t)
    (hds : ∀ c ∈ ds, isBreak c = false) : Term.takesPower (tail isBreak cs) = true := by
  have hall : ∀ c ∈ '^' :: ds, isBreak c = false := List.forall_mem_cons.mpr ⟨by decide, hds⟩
  obtain ⟨before, hcs, hraised⟩ := Text.pieces_append cs hall (by simp)
  obtain ⟨t', ht'⟩ := hw (tail isBreak cs ++ '^' :: ds) (by simp [hraised])
  by_cases htail : tail isBreak cs = []
  · rw [htail, List.nil_append] at ht'
    exact absurd ht' Term.not_reads_caret
  · obtain ⟨t, -, ht⟩ := h.word (w := tail isBreak cs) (by simp [hcs, htail])
    exact Term.takesPower_of_reads ht ht'

/-- The one word of a single term has the bracket and the symbol of the term, with whatever power is
written behind it. -/
theorem Reads.word_raise {t : Term} (h : Reads cs ⟨[t], none⟩)
    (hw : ∀ w ∈ pieces isBreak (cs ++ '^' :: ds), ∃ t', Term.Reads w t')
    (hds : ∀ c ∈ ds, isBreak c = false) : ∃ w ∈ pieces isBreak (cs ++ '^' :: ds),
      ∀ t', Term.Reads w t' → t'.bracket = t.bracket ∧ t'.symbol = t.symbol := by
  have htakes := takesPower_of_word h hw hds
  obtain ⟨before, hcs, hraised⟩ := Text.pieces_append cs
    (List.forall_mem_cons.mpr ⟨by decide, hds⟩ : ∀ c ∈ '^' :: ds, isBreak c = false) (by simp)
  have htail : tail isBreak cs ≠ [] := by
    intro hnil
    rw [hnil] at htakes
    exact nomatch htakes
  rw [if_neg htail] at hcs
  obtain ⟨s, hs, hlast⟩ := h.word (w := tail isBreak cs) (by simp [hcs])
  obtain rfl : s = (false, t) := by simpa [Plan.terms] using hs
  refine ⟨_, by rw [hraised]; exact List.mem_append_right _ List.mem_cons_self, fun t' ht' => ?_⟩
  exact Term.same_of_reads_append hlast ht'

end Plan

end Quantities
