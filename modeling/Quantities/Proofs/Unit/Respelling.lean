import Quantities.Proofs.Unit.Grammar

/-!
# Unit strings with a word respelled

What a unit string says depends on each of its words by itself. So where one word is replaced by
another one that is read alike, the whole text is read alike: as plans of which one has the terms of
the other, or with failures of one kind.

* `Plan.Respelled`: two texts that differ in one word.
* `Plan.Related`: two plans of the same form, whose terms are related one by one.
* **`Plan.Respelled.read`**: texts that differ in one word are read alike if this word is.
-/

namespace Quantities

open Outcome (Matches)

/-! ## Words -/

namespace Term

variable {text text' : String} {w : List Char} {R : Term → Term → Prop}

theorem readPower_matches (text text' : String) (cs : List Char) :
    Matches Eq (readPower text cs) (readPower text' cs) := by
  unfold readPower
  split
  · exact .error rfl
  split
  · exact .error rfl
  split
  · exact .error rfl
  · exact .ok rfl

/-- Two words with the same text behind the caret, if there is one. -/
theorem Shape.read_matches {w v symbol symbol' : List Char} {bracket bracket' : Option (List Char)}
    {power : Option (List Char)} (hw : Shape w bracket symbol power)
    (hv : Shape v bracket' symbol' power)
    (hR : ∀ n, R ⟨bracket.map String.ofList, String.ofList symbol, n⟩
      ⟨bracket'.map String.ofList, String.ofList symbol', n⟩) :
    Matches R (Term.read text w) (Term.read text' v) := by
  rw [read_of_shape hw, read_of_shape hv]
  cases power with
  | none => exact .ok (hR 1)
  | some cs =>
    refine (readPower_matches text text' cs).bind fun n n' hn => ?_
    obtain rfl := hn
    exact .ok (hR n)

/-- The unit string around a word matters for the wording of a failure only. -/
theorem read_matches (hR : ∀ t, R t t) (text text' : String) (w : List Char) :
    Matches R (Term.read text w) (Term.read text' w) := by
  cases hsplit : split? w with
  | none =>
    unfold Term.read
    rw [hsplit]
    exact .error rfl
  | some parts =>
    have shape := shape_of_split? hsplit
    exact shape.read_matches shape fun _ => hR _

end Term

/-! ## Texts -/

namespace Plan

open Text (pieces tail)

/-- Two texts that differ in one word: where `w` stands in the first one, there is `v` in the
second. What stands before and behind them is nothing, or a character that ends words. -/
structure Respelled (w v a b : List Char) : Prop where
  before : tail isBreak a = []
  behind : ∀ c ∈ b.head?, isBreak c = true
  first : w ≠ [] ∧ ∀ c ∈ w, isBreak c = false
  second : v ≠ [] ∧ ∀ c ∈ v, isBreak c = false
  parentheses : (('(' ∈ w ∨ ')' ∈ w) ↔ ('(' ∈ v ∨ ')' ∈ v))

/-- Plans of the same form whose terms are related. -/
structure Related (R : Term → Term → Prop) (p q : Plan) : Prop where
  numerator : List.Forall₂ R p.numerator q.numerator
  denominator : Option.Rel (List.Forall₂ R) p.denominator q.denominator

variable {text text' : String} {a b cs ds v w : List Char} {R : Term → Term → Prop} {p q : Plan}

/-- The terms of such plans are related in the order of the text. -/
theorem Related.terms (h : p.Related R q) :
    List.Forall₂ (fun t u => t.1 = u.1 ∧ R t.2 u.2) p.terms q.terms := by
  obtain ⟨ns, ds⟩ := p
  obtain ⟨ns', ds'⟩ := q
  obtain ⟨hn, hd⟩ := h
  have hmark : ∀ {b : Bool} {ts us : List Term}, List.Forall₂ R ts us →
      List.Forall₂ (fun t u => t.1 = u.1 ∧ R t.2 u.2) (ts.map (b, ·)) (us.map (b, ·)) := by
    intro b ts us hts
    rw [List.forall₂_map_left_iff, List.forall₂_map_right_iff]
    exact hts.imp fun _ _ ht => ⟨rfl, ht⟩
  refine List.rel_append (hmark hn) (hmark ?_)
  cases hd with
  | some hd => exact hd
  | none => exact .nil

theorem Respelled.symm (h : Respelled w v a b) : Respelled v w a b :=
  ⟨h.before, h.behind, h.second, h.first, h.parentheses.symm⟩

/-- The word is a piece of the text. -/
theorem Respelled.pieces (h : Respelled w v a b) :
    pieces isBreak (a ++ w ++ b) = pieces isBreak a ++ w :: pieces isBreak b := by
  obtain ⟨before, ha, haw⟩ := Text.pieces_append a h.first.2 h.first.1
  rw [h.before, if_pos rfl, List.append_nil] at ha
  rw [h.before, List.nil_append, ← ha] at haw
  cases b with
  | nil =>
    rw [List.append_nil, haw]
    rfl
  | cons c b =>
    have hc : isBreak c = true := h.behind c rfl
    have hb : Text.pieces isBreak (c :: b) = Text.pieces isBreak b :=
      Text.pieces_append_cons (a := []) hc
    rw [Text.pieces_append_cons hc, haw, hb, List.append_assoc, List.singleton_append]

theorem Respelled.not_mem_slash (h : Respelled w v a b) : '/' ∉ w := fun hw =>
  nomatch h.first.2 '/' hw

/-- The word makes no difference for where the slashes are. -/
theorem Respelled.count_slash (h : Respelled w v a b) :
    (a ++ w ++ b).count '/' = a.count '/' + b.count '/' := by
  rw [List.count_append, List.count_append, List.count_eq_zero.mpr h.not_mem_slash, Nat.add_zero]

theorem Respelled.parenthesis_iff (h : Respelled w v a b) :
    ('(' ∈ a ++ w ++ b ∨ ')' ∈ a ++ w ++ b) ↔ ('(' ∈ a ++ v ++ b ∨ ')' ∈ a ++ v ++ b) := by
  have hw := h.parentheses
  simp only [List.mem_append]
  grind

/-- A text without parentheses and slashes is a section. -/
theorem isSection_of_not_mem (hparen : ¬ ('(' ∈ cs ∨ ')' ∈ cs)) (hslash : '/' ∉ cs) :
    IsSection cs := fun _ hc =>
  ⟨fun e => hslash (e ▸ hc), fun e => hparen (Or.inl (e ▸ hc)), fun e => hparen (Or.inr (e ▸ hc))⟩

/-! ## Reading -/

/-- Sections whose words are read alike. -/
theorem readSection_matches (hcs : IsSection cs) (hds : IsSection ds)
    (h : List.Forall₂ (fun u u' => Matches R (Term.read text u) (Term.read text' u'))
      (pieces isBreak cs) (pieces isBreak ds)) :
    Matches (List.Forall₂ R) (readSection text cs) (readSection text' ds) := by
  unfold readSection
  rw [words_eq hcs, words_eq hds]
  generalize pieces isBreak cs = ws, pieces isBreak ds = ws' at h
  cases h with
  | nil => exact .error rfl
  | cons hw hws => exact .mapM (.cons hw hws)

theorem forall₂_read (hR : ∀ t, R t t) (text text' : String) (ws : List (List Char)) :
    List.Forall₂ (fun u u' => Matches R (Term.read text u) (Term.read text' u')) ws ws :=
  List.forall₂_same.mpr fun w _ => Term.read_matches hR text text' w

theorem readSection_same (hR : ∀ t, R t t) (hcs : IsSection cs) (text text' : String) :
    Matches (List.Forall₂ R) (readSection text cs) (readSection text' cs) :=
  readSection_matches hcs hcs (forall₂_read hR text text' _)

/-- A section of which one word is respelled. -/
theorem Respelled.readSection (h : Respelled w v a b) (hR : ∀ t, R t t)
    (hword : Matches R (Term.read text w) (Term.read text' v)) (hw : IsSection (a ++ w ++ b))
    (hv : IsSection (a ++ v ++ b)) :
    Matches (List.Forall₂ R) (readSection text (a ++ w ++ b)) (readSection text' (a ++ v ++ b)) := by
  refine readSection_matches hw hv ?_
  rw [h.pieces, h.symm.pieces]
  exact List.rel_append (forall₂_read hR _ _ _) (.cons hword (forall₂_read hR _ _ _))

/-- What is read as two sections, one by one. -/
theorem quotient_matches {cs' ds' : List Char} (htext : text.toList = cs ++ '/' :: ds)
    (htext' : text'.toList = cs' ++ '/' :: ds') (hcs : IsSection cs) (hds : IsSection ds)
    (hcs' : IsSection cs') (hds' : IsSection ds')
    (hn : Matches (List.Forall₂ R) (Plan.readSection text cs) (Plan.readSection text' cs'))
    (hd : Matches (List.Forall₂ R) (Plan.readSection text ds) (Plan.readSection text' ds')) :
    Matches (Related R) (Plan.read text) (Plan.read text') := by
  rw [read_quotient htext hcs hds, read_quotient htext' hcs' hds']
  exact hn.bind fun _ _ hts => hd.bind fun _ _ hus => .ok ⟨hts, .some hus⟩

/-- **Texts that differ in one word are read alike if this word is.** The slash, if there is one,
stands before or behind the word, and one of the sections is the same in both texts. -/
theorem Respelled.read (h : Respelled w v a b) (hR : ∀ t, R t t)
    (hword : Matches R (Term.read text w) (Term.read text' v)) (htext : text.toList = a ++ w ++ b)
    (htext' : text'.toList = a ++ v ++ b) :
    Matches (Related R) (Plan.read text) (Plan.read text') := by
  by_cases hparen : '(' ∈ text.toList ∨ ')' ∈ text.toList
  · have hparen' : '(' ∈ text'.toList ∨ ')' ∈ text'.toList := by
      rw [htext] at hparen
      rw [htext']
      exact h.parenthesis_iff.mp hparen
    rw [read_parenthesis hparen, read_parenthesis hparen']
    exact .error rfl
  have hparen' : ¬ ('(' ∈ text'.toList ∨ ')' ∈ text'.toList) := by
    rw [htext] at hparen
    rw [htext']
    exact fun hp => hparen (h.parenthesis_iff.mpr hp)
  have hcount : text.toList.count '/' = a.count '/' + b.count '/' := by
    rw [htext, h.count_slash]
  have hcount' : text'.toList.count '/' = a.count '/' + b.count '/' := by
    rw [htext', h.symm.count_slash]
  by_cases hslashes : 1 < a.count '/' + b.count '/'
  · rw [read_manySlashes (not_or.mp hparen) (hcount ▸ hslashes),
      read_manySlashes (not_or.mp hparen') (hcount' ▸ hslashes)]
    exact .error rfl
  have hsection : ∀ {cs : List Char}, (∀ c ∈ cs, c ∈ text.toList ∨ c ∈ text'.toList) →
      '/' ∉ cs → IsSection cs := by
    intro cs hcs
    refine isSection_of_not_mem ?_
    grind
  by_cases ha : '/' ∈ a
  · obtain ⟨x, y, rfl, hx⟩ := List.eq_append_cons_of_mem ha
    have hzero : y.count '/' = 0 ∧ b.count '/' = 0 := by
      rw [List.count_append, List.count_cons_self] at hslashes
      omega
    have hbefore := h.before
    rw [Text.tail_append_cons (by decide)] at hbefore
    have h' : Respelled w v y b := { h with before := hbefore }
    have hy : '/' ∉ y ++ w ++ b ∧ '/' ∉ y ++ v ++ b := by
      rw [← List.count_eq_zero, ← List.count_eq_zero, h'.count_slash, h'.symm.count_slash]
      omega
    rw [List.append_assoc, List.append_assoc, List.cons_append, ← List.append_assoc] at htext htext'
    have hsame : IsSection x := hsection (by grind) hx
    have hw : IsSection (y ++ w ++ b) := hsection (by grind) hy.1
    have hv : IsSection (y ++ v ++ b) := hsection (by grind) hy.2
    exact quotient_matches htext htext' hsame hw hsame hv (readSection_same hR hsame _ _)
      (h'.readSection hR hword hw hv)
  by_cases hb : '/' ∈ b
  · obtain ⟨x, y, rfl, hx⟩ := List.eq_append_cons_of_mem hb
    have hzero : a.count '/' = 0 ∧ y.count '/' = 0 := by
      rw [List.count_append, List.count_cons_self] at hslashes
      omega
    have hbehind : ∀ c ∈ x.head?, isBreak c = true := fun c hc =>
      h.behind c (List.mem_head?_append_of_mem_head? hc)
    have h' : Respelled w v a x := { h with behind := hbehind }
    have hax : '/' ∉ a ++ w ++ x ∧ '/' ∉ a ++ v ++ x := by
      rw [← List.count_eq_zero, ← List.count_eq_zero, h'.count_slash, h'.symm.count_slash,
        List.count_eq_zero.mpr hx]
      omega
    rw [← List.append_assoc] at htext htext'
    have hsame : IsSection y := hsection (by grind) (List.count_eq_zero.mp hzero.2)
    have hw : IsSection (a ++ w ++ x) := hsection (by grind) hax.1
    have hv : IsSection (a ++ v ++ x) := hsection (by grind) hax.2
    exact quotient_matches htext htext' hw hsame hv hsame (h'.readSection hR hword hw hv)
      (readSection_same hR hsame _ _)
  have hnone : '/' ∉ a ++ w ++ b ∧ '/' ∉ a ++ v ++ b := by
    rw [← List.count_eq_zero, ← List.count_eq_zero, h.count_slash, h.symm.count_slash,
      List.count_eq_zero.mpr ha, List.count_eq_zero.mpr hb]
    exact ⟨rfl, rfl⟩
  have hw : IsSection text.toList := hsection (fun _ => Or.inl) (htext ▸ hnone.1)
  have hv : IsSection text'.toList := hsection (fun _ => Or.inr) (htext' ▸ hnone.2)
  rw [read_product hw, read_product hv]
  rw [htext] at hw ⊢
  rw [htext'] at hv ⊢
  exact (h.readSection hR hword hw hv).bind fun _ _ hts => .ok ⟨hts, .none⟩

end Plan

end Quantities
