import Mathlib.Data.List.Nodup
import Quantities.Proofs.Dimension.Group
import Quantities.Proofs.Number.Written
import Quantities.Proofs.Text.Words
import Quantities.Quantity.Text

/-!
# Written dimensions are unambiguous

A dimension is written as factors in brackets, with the letter of a base dimension behind each
opening bracket. The letters come in their order and each of them once, so the first factor tells
whether an exponent is zero, and the first closing bracket where the exponent ends.

* `exponent_eq_of_flatMap`: factors of different base dimensions that are written alike have the
  same exponents, by induction on the base dimensions;
* `text_injective`: two dimensions are not written alike;
* `Failure.eq_of_message?` and `Quantity.dimension_eq_of_text`: nor are they within messages and
  quantities, since no round bracket, comma or blank stands in a written dimension.
* **`text_unambiguous`**: all of this together.
-/

namespace Quantities

open Quantities.Number Quantities.Text

namespace BaseDimension

theorem letter_injective : Function.Injective letter := fun a b h =>
  List.inj_on_of_nodup_map (by decide) a.mem_all b.mem_all h

theorem letter_ne_one (b : BaseDimension) : b.letter ≠ '1' := by
  cases b <;> decide

end BaseDimension

namespace Dimension

variable {d e : Dimension} {b : BaseDimension} {bs : List BaseDimension} {c : Char}
  {cs : List Char}

/-! ## Factors -/

theorem toList_factorText_of_eq (h : d.exponent b = 0) : (d.factorText b).toList = [] := by
  rw [factorText, if_pos h, String.toList_empty]

theorem toList_factorText_of_ne (h : d.exponent b ≠ 0) :
    (d.factorText b).toList =
      '[' :: b.letter :: '^' :: ((intText (d.exponent b)).toList ++ [']']) := by
  rw [factorText, if_neg h]
  simp

/-- The letter behind the first bracket is that of one of the base dimensions. -/
theorem letter_of_flatMap :
    ∀ {bs : List BaseDimension}, bs.flatMap (fun b => (d.factorText b).toList) = '[' :: c :: cs →
      ∃ b ∈ bs, c = b.letter
  | [], h => nomatch h
  | b :: bs, h => by
    rw [List.flatMap_cons] at h
    by_cases hb : d.exponent b = 0
    · rw [toList_factorText_of_eq hb, List.nil_append] at h
      obtain ⟨x, hx, hc⟩ := letter_of_flatMap h
      exact ⟨x, List.mem_cons_of_mem b hx, hc⟩
    · rw [toList_factorText_of_ne hb] at h
      exact ⟨b, List.mem_cons_self, (List.cons.inj (List.cons.inj h).2).1.symm⟩

theorem ne_closing_of_mem_intText {n : Int} (h : c ∈ (intText n).toList) : (c == ']') = false := by
  rcases isDigit_of_mem_intText h with rfl | h
  · decide
  · exact beq_eq_false_iff_ne.mpr (ne_of_isDigit h (by decide))

/-- A factor that is written and one that is not are told apart by the letter that follows. -/
theorem flatMap_factorText_ne (hb : b ∉ bs) (he : e.exponent b ≠ 0) :
    bs.flatMap (fun b => (d.factorText b).toList) ≠ (e.factorText b).toList ++ cs := by
  intro h
  rw [toList_factorText_of_ne he] at h
  obtain ⟨x, hx, hletter⟩ := letter_of_flatMap h
  exact hb (BaseDimension.letter_injective hletter ▸ hx)

/-- **Factors that are written alike have the same exponents.** -/
theorem exponent_eq_of_flatMap : ∀ {bs : List BaseDimension}, bs.Nodup →
    bs.flatMap (fun b => (d.factorText b).toList) =
      bs.flatMap (fun b => (e.factorText b).toList) → ∀ b ∈ bs, d.exponent b = e.exponent b
  | [], _, _, _, hb => nomatch hb
  | b :: bs, hnodup, h, x, hx => by
    obtain ⟨hb, hnodup⟩ := List.nodup_cons.mp hnodup
    rw [List.flatMap_cons, List.flatMap_cons] at h
    have hparts : d.exponent b = e.exponent b ∧
        bs.flatMap (fun b => (d.factorText b).toList) =
          bs.flatMap fun b => (e.factorText b).toList := by
      by_cases hd : d.exponent b = 0 <;> by_cases he : e.exponent b = 0
      · rw [toList_factorText_of_eq hd, toList_factorText_of_eq he] at h
        exact ⟨hd.trans he.symm, h⟩
      · rw [toList_factorText_of_eq hd, List.nil_append] at h
        exact absurd h (flatMap_factorText_ne hb he)
      · rw [toList_factorText_of_eq he, List.nil_append] at h
        exact absurd h.symm (flatMap_factorText_ne hb hd)
      · rw [toList_factorText_of_ne hd, toList_factorText_of_ne he] at h
        simp only [List.cons_append, List.append_assoc, List.nil_append, List.cons.injEq,
          true_and] at h
        obtain ⟨hn, -, hrest⟩ := (append_cons_inj (p := (· == ']'))
          (fun _ => ne_closing_of_mem_intText) (fun _ => ne_closing_of_mem_intText) rfl rfl).mp h
        exact ⟨intText_injective (String.toList_injective hn), hrest⟩
    rcases List.mem_cons.mp hx with rfl | hx
    · exact hparts.1
    · exact exponent_eq_of_flatMap hnodup hparts.2 x hx

/-! ## Whole dimensions -/

theorem toList_text_one : (1 : Dimension).text.toList = ['[', '1', ']'] := by
  rw [text, if_pos rfl]
  rfl

theorem toList_text_of_ne (h : d ≠ 1) :
    d.text.toList = BaseDimension.all.flatMap fun b => (d.factorText b).toList := by
  rw [text, if_neg h, String.toList_join, List.flatMap_map]

/-- The text of pure numbers is that of no other dimension. -/
theorem text_ne_text_one (h : d ≠ 1) : d.text ≠ (1 : Dimension).text := by
  intro htext
  have hlist := congrArg String.toList htext
  rw [toList_text_of_ne h, toList_text_one] at hlist
  obtain ⟨b, -, hb⟩ := letter_of_flatMap hlist
  exact b.letter_ne_one hb.symm

/-- **Two dimensions are not written alike.** -/
theorem text_injective : Function.Injective text := by
  intro d e h
  by_cases hd : d = 1
  · by_contra hne
    exact text_ne_text_one (fun he => hne (hd.trans he.symm)) (hd ▸ h.symm)
  by_cases he : e = 1
  · exact absurd (he ▸ h) (text_ne_text_one hd)
  have hlist := congrArg String.toList h
  rw [toList_text_of_ne hd, toList_text_of_ne he] at hlist
  exact ext_exponent fun b => exponent_eq_of_flatMap (by decide) hlist b b.mem_all

/-- What stands around a dimension stands nowhere in it. -/
def isOutside (c : Char) : Bool := c == ' ' || c == '(' || c == ')' || c == ','

theorem isOutside_of_mem_factorText (h : c ∈ (d.factorText b).toList) : isOutside c = false := by
  by_cases hb : d.exponent b = 0
  · rw [toList_factorText_of_eq hb] at h
    exact nomatch h
  rw [toList_factorText_of_ne hb] at h
  simp only [List.mem_cons, List.mem_append, List.not_mem_nil, or_false] at h
  rcases h with rfl | rfl | rfl | h | rfl
  · rfl
  · cases b <;> rfl
  · rfl
  · rcases isDigit_of_mem_intText h with rfl | h
    · rfl
    · simp [isOutside, ne_of_isDigit h]
  · rfl

theorem isOutside_of_mem_text (h : c ∈ d.text.toList) : isOutside c = false := by
  by_cases hd : d = 1
  · rw [hd, toList_text_one] at h
    simp only [List.mem_cons, List.not_mem_nil, or_false] at h
    rcases h with rfl | rfl | rfl <;> rfl
  · rw [toList_text_of_ne hd] at h
    obtain ⟨b, -, hb⟩ := List.mem_flatMap.mp h
    exact isOutside_of_mem_factorText hb

/-- A text that begins with a dimension has only one beginning of this kind. -/
theorem text_append_cons_inj {c' : Char} {cs' : List Char} (hc : isOutside c = true)
    (hc' : isOutside c' = true) :
    d.text.toList ++ c :: cs = e.text.toList ++ c' :: cs' ↔ d = e ∧ c = c' ∧ cs = cs' := by
  rw [append_cons_inj (fun _ => isOutside_of_mem_text) (fun _ => isOutside_of_mem_text) hc hc',
    String.toList_inj, text_injective.eq_iff]

/-- Two dimensions with a fixed text between them. -/
theorem text_append_text {d' e' : Dimension} (between : List Char)
    (h : d.text.toList ++ ' ' :: (between ++ e.text.toList) =
      d'.text.toList ++ ' ' :: (between ++ e'.text.toList)) : d = d' ∧ e = e' := by
  obtain ⟨hd, -, hrest⟩ := (text_append_cons_inj rfl rfl).mp h
  rw [List.append_cancel_left_eq, String.toList_inj] at hrest
  exact ⟨hd, text_injective hrest⟩

end Dimension

/-! ## Messages -/

namespace Failure

variable {f g : Failure} {d e d' e' : Dimension}

theorem eq_of_incompatibleUnits (h : f.kind = .incompatibleUnits) :
    (∃ action left right, f = unlikeDimensions action left right) ∨
      (∃ tolerance own, f = unlikeTolerance tolerance own) ∨
        ∃ own text target, f = inconvertible own text target := by
  cases f with
  | unlikeDimensions action left right => exact Or.inl ⟨action, left, right, rfl⟩
  | unlikeTolerance tolerance own => exact Or.inr (Or.inl ⟨tolerance, own, rfl⟩)
  | inconvertible own text target => exact Or.inr (Or.inr ⟨own, text, target, rfl⟩)
  | _ => exact nomatch h

theorem unlikeDimensions_of_message? {a a' : Action}
    (h : (unlikeDimensions a d e).message? = (unlikeDimensions a' d' e').message?) :
    a = a' ∧ d = d' ∧ e = e' := by
  have hlist := congrArg String.toList (Option.some.inj h)
  have hparts : a = a' ∧ d.text.toList ++ ' ' :: ("and ".toList ++ e.text.toList) =
      d'.text.toList ++ ' ' :: ("and ".toList ++ e'.text.toList) := by
    cases a <;> cases a' <;> simp [Action.word] at hlist ⊢ <;> exact hlist
  exact ⟨hparts.1, Dimension.text_append_text _ hparts.2⟩

theorem unlikeTolerance_of_message?
    (h : (unlikeTolerance d e).message? = (unlikeTolerance d' e').message?) : d = d' ∧ e = e' := by
  have hlist : d.text.toList ++ ' ' :: ("are not compatible with ".toList ++ e.text.toList) =
      d'.text.toList ++ ' ' :: ("are not compatible with ".toList ++ e'.text.toList) := by
    simpa using congrArg String.toList (Option.some.inj h)
  exact Dimension.text_append_text _ hlist

/-- The unit string may have brackets of its own, but the last one belongs to the dimension. -/
theorem inconvertible_of_message? {text text' : String}
    (h : (inconvertible d text e).message? = (inconvertible d' text' e').message?) :
    d = d' ∧ text = text' ∧ e = e' := by
  have hlist : d.text.toList ++ ' ' :: ("to '".toList ++
        ((text ++ "' ").toList ++ '(' :: (e.text ++ ")").toList)) =
      d'.text.toList ++ ' ' :: ("to '".toList ++
        ((text' ++ "' ").toList ++ '(' :: (e'.text ++ ")").toList)) := by
    simpa using congrArg String.toList (Option.some.inj h)
  have hclosed (e : Dimension) : ∀ x ∈ (e.text ++ ")").toList, (x == '(') = false := by
    intro x hx
    rw [String.toList_append] at hx
    rcases List.mem_append.mp hx with hx | hx
    · have hout := Dimension.isOutside_of_mem_text hx
      simp only [Dimension.isOutside, Bool.or_eq_false_iff] at hout
      exact hout.1.1.2
    · rw [List.mem_singleton.mp hx]
      rfl
  obtain ⟨hd, -, hrest⟩ := (Dimension.text_append_cons_inj rfl rfl).mp hlist
  rw [List.append_cancel_left_eq] at hrest
  obtain ⟨htext, -, he⟩ := (append_cons_inj_last (p := (· == '(')) (hclosed e) (hclosed e')
    rfl rfl).mp hrest
  rw [String.toList_inj, String.append_left_inj] at htext he
  exact ⟨hd, htext, Dimension.text_injective he⟩

theorem unlikeDimensions_ne_unlikeTolerance {a : Action} :
    (unlikeDimensions a d e).message? ≠ (unlikeTolerance d' e').message? := fun h => by
  have hlist := congrArg String.toList (Option.some.inj h)
  simp at hlist

theorem inconvertible_ne_unlikeTolerance {text : String} :
    (inconvertible d text e).message? ≠ (unlikeTolerance d' e').message? := fun h => by
  have hlist := congrArg String.toList (Option.some.inj h)
  simp at hlist

theorem unlikeDimensions_ne_inconvertible {a : Action} {text : String} :
    (unlikeDimensions a d e).message? ≠ (inconvertible d' text e').message? := fun h => by
  have hlist := congrArg String.toList (Option.some.inj h)
  cases a <;> simp [Action.word] at hlist

/-- **Messages about unlike dimensions tell all that is known about them.** -/
theorem eq_of_message? (hf : f.kind = .incompatibleUnits) (hg : g.kind = .incompatibleUnits)
    (h : f.message? = g.message?) : f = g := by
  obtain ⟨a, d, e, rfl⟩ | ⟨d, e, rfl⟩ | ⟨d, text, e, rfl⟩ := eq_of_incompatibleUnits hf
  · obtain ⟨a', d', e', rfl⟩ | ⟨d', e', rfl⟩ | ⟨d', text', e', rfl⟩ := eq_of_incompatibleUnits hg
    · obtain ⟨rfl, rfl, rfl⟩ := unlikeDimensions_of_message? h
      rfl
    · exact absurd h unlikeDimensions_ne_unlikeTolerance
    · exact absurd h unlikeDimensions_ne_inconvertible
  · obtain ⟨a', d', e', rfl⟩ | ⟨d', e', rfl⟩ | ⟨d', text', e', rfl⟩ := eq_of_incompatibleUnits hg
    · exact absurd h.symm unlikeDimensions_ne_unlikeTolerance
    · obtain ⟨rfl, rfl⟩ := unlikeTolerance_of_message? h
      rfl
    · exact absurd h.symm inconvertible_ne_unlikeTolerance
  · obtain ⟨a', d', e', rfl⟩ | ⟨d', e', rfl⟩ | ⟨d', text', e', rfl⟩ := eq_of_incompatibleUnits hg
    · exact absurd h.symm unlikeDimensions_ne_inconvertible
    · exact absurd h inconvertible_ne_unlikeTolerance
    · obtain ⟨rfl, rfl, rfl⟩ := inconvertible_of_message? h
      rfl

end Failure

/-! ## Written quantities -/

theorem Magnitude.ne_blank_of_mem_text {m : Magnitude Float} {c : Char} (h : c ∈ m.text.toList) :
    (c == ' ') = false := by
  have hnumeric {c : Char} (h : Numeric c) : (c == ' ') = false :=
    beq_eq_false_iff_ne.mpr (h.ne (by decide) (by decide))
  cases m with
  | scalar x => exact hnumeric (numeric_of_mem_briefText h)
  | array xs =>
    simp only [text, String.toList_append, String.toList_intercalate, List.mem_append] at h
    rcases h with (h | h) | h
    · rw [List.mem_singleton.mp h]
      rfl
    · rcases mem_of_mem_intercalate h with h | ⟨w, hw, hc⟩
      · rw [List.mem_singleton.mp h]
        rfl
      · simp only [List.map_map, List.mem_map, Function.comp_apply] at hw
        obtain ⟨x, -, rfl⟩ := hw
        exact hnumeric (numeric_of_mem_briefText hc)
    · rw [List.mem_singleton.mp h]
      rfl

namespace Quantity

/-- What closes a written quantity, behind its dimension. -/
theorem exists_closing (q : Quantity Float) : ∃ c cs, Dimension.isOutside c = true ∧
    q.text.toList = "Quantity(".toList ++
      ((q.magnitude.text ++ ",").toList ++ ' ' :: (q.dimension.text.toList ++ c :: cs)) := by
  unfold text
  split
  · refine ⟨',', (" offset=" ++ briefText q.offset ++ ")").toList, rfl, ?_⟩
    simp
  · refine ⟨')', [], rfl, ?_⟩
    simp

/-- **The dimension of a written quantity.** -/
theorem dimension_eq_of_text {q r : Quantity Float} (h : q.text = r.text) :
    q.dimension = r.dimension := by
  have hmagnitude (q : Quantity Float) : ∀ x ∈ (q.magnitude.text ++ ",").toList,
      (x == ' ') = false := by
    intro x hx
    rw [String.toList_append] at hx
    rcases List.mem_append.mp hx with hx | hx
    · exact Magnitude.ne_blank_of_mem_text hx
    · rw [List.mem_singleton.mp hx]
      rfl
  obtain ⟨c, cs, hc, hq⟩ := exists_closing q
  obtain ⟨c', cs', hc', hr⟩ := exists_closing r
  have hlist : q.text.toList = r.text.toList := congrArg String.toList h
  rw [hq, hr, List.append_cancel_left_eq,
    append_cons_inj (p := (· == ' ')) (hmagnitude q) (hmagnitude r) rfl rfl] at hlist
  exact ((Dimension.text_append_cons_inj hc hc').mp hlist.2.2).1

end Quantity

/-- **Written dimensions are unambiguous**, on their own and where a message about unlike dimensions
or a quantity holds them. -/
theorem Dimension.text_unambiguous :
    Function.Injective Dimension.text ∧
      (∀ f g : Failure, f.kind = .incompatibleUnits → g.kind = .incompatibleUnits →
        f.message? = g.message? → f = g) ∧
      ∀ q r : Quantity Float, q.text = r.text → q.dimension = r.dimension := by
  refine ⟨Dimension.text_injective, ?_, ?_⟩
  · intro f g hf hg h
    exact Failure.eq_of_message? hf hg h
  · intro q r h
    exact Quantity.dimension_eq_of_text h

/-- An acceleration; and two quantities that are written alike although their magnitudes differ. -/
theorem Dimension.text_unambiguous_acceleration :
    let d : Dimension := { length := 1, time := -2 }
    let e : Dimension := { length := 1 } / ({ time := 1 } : Dimension) ^ (2 : Int)
    let f := Failure.inconvertible d "kg (" 1
    let g := Failure.inconvertible e "kg (" (e / d)
    let q : Quantity Float := ⟨.array [0.1 + 0.2, -1], d, 273.15⟩
    let r : Quantity Float := ⟨.array [0.3, -1], e, 273.15⟩
    (d.text = e.text ∧ d = e) ∧
      (f.kind = .incompatibleUnits ∧ g.kind = .incompatibleUnits ∧ f.message? = g.message? ∧
        f = g) ∧
      (q.text = r.text ∧ q.dimension = r.dimension) := by
  intro d e f g q r
  have htext : d.text = e.text := by decide +kernel
  have hmessage : f.message? = g.message? := by decide +kernel
  have hquantity : q.text = r.text := by decide +kernel
  exact ⟨⟨htext, Dimension.text_unambiguous.1 htext⟩,
    ⟨rfl, rfl, hmessage, Dimension.text_unambiguous.2.1 f g rfl rfl hmessage⟩,
    ⟨hquantity, Dimension.text_unambiguous.2.2 q r hquantity⟩⟩

end Quantities
