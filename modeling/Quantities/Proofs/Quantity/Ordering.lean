import Mathlib.Data.Sign.Basic
import Mathlib.Order.Compare
import Quantities.Proofs.Quantity.Comparison
import Quantities.Proofs.Quantity.Conversion

/-!
# Exact orders

Over exact numbers, quantities of one dimension are ordered as they lie from its true zero, whatever
scales they were read from, and every unit shows them in that order.

* `LiesAt`: a quantity is one number, which lies somewhere in its dimension.
* `compare_of_liesAt`: quantities are compared as they lie.
* `Question.mirror`: the question that has the same answer with the operands in the other order.
* `valueIn_of_liesAt`: a value in a unit grows with the place where the quantity lies.
* **`compare_exact`**: the order is the sign of the difference, a total preorder whose questions
  exclude and mirror each other, and the order of the values in any unit.
-/

namespace Quantities

/-- The question that has the same answer with the operands in the other order. -/
def Question.mirror : Question → Question
  | equal => equal
  | less => greater
  | atMost => atLeast
  | greater => less
  | atLeast => atMost

theorem Question.holds_swap (question : Question) (o : Ordering) :
    question.mirror.holds (Value.orderSign o) = question.holds (Value.orderSign o.swap) := by
  cases question <;> cases o <;> rfl

namespace Quantity

/-- The quantity is one number, which lies at `v`, seen from the true zero of the dimension. -/
structure LiesAt {α : Type} [Scalar α] (q : Quantity α) (d : Dimension) (v : α) : Prop where
  dimension : q.dimension = d
  number : ∃ x, q.magnitude = .scalar x ∧ x + q.offset = v

variable {a b c u : Quantity ℚ} {d : Dimension} {x y z : ℚ}

/-! ## Orders -/

theorem orderOf_exact (x y : ℚ) : orderOf (y - x) 0 = cmp x y := by
  have hlt : Scalar.lt 0 (y - x) = true ↔ x < y := decide_eq_true_iff.trans sub_pos
  have hgt : Scalar.lt (y - x) (-0) = true ↔ y < x := by
    rw [neg_zero]
    exact decide_eq_true_iff.trans sub_neg
  unfold orderOf
  simp only [hlt, hgt]
  rcases lt_trichotomy x y with h | rfl | h
  · rw [if_neg h.not_gt, if_pos h, h.cmp_eq_lt]
  · rw [if_neg (lt_irrefl x), if_neg (lt_irrefl x), cmp_self_eq_eq]
  · rw [if_pos h, h.cmp_eq_gt]

/-- Quantities are compared as they lie. -/
theorem compare_of_liesAt (ha : a.LiesAt d x) (hb : b.LiesAt d y) :
    a.compare b .exact = .ok (.scalar (cmp x y)) := by
  obtain ⟨hda, x', hx', rfl⟩ := ha
  obtain ⟨hdb, y', hy', rfl⟩ := hb
  rw [compare_of_like (hda.trans hdb.symm), hx', hy', ← orderOf_exact]
  rfl

theorem orderSign_cmp (x y : ℚ) : Value.orderSign (cmp x y) = SignType.sign (x - y) := by
  rcases lt_trichotomy x y with h | rfl | h
  · rw [h.cmp_eq_lt, sign_neg (sub_neg.mpr h)]
    rfl
  · rw [cmp_self_eq_eq, sub_self, sign_zero]
    rfl
  · rw [h.cmp_eq_gt, sign_pos (sub_pos.mpr h)]
    rfl

/-! ## Questions -/

theorem ask_of_liesAt (ha : a.LiesAt d x) (hb : b.LiesAt d y) (question : Question) :
    question.ask a b .exact = .ok (.scalar (question.holds (Value.orderSign (cmp x y)))) := by
  rw [question.ask_eq, compare_of_liesAt ha hb]
  rfl

theorem atMost_of_liesAt (ha : a.LiesAt d x) (hb : b.LiesAt d y) :
    a.atMost b .exact = .ok (.scalar true) ↔ x ≤ y := by
  have hatMost : a.atMost b .exact = .ok (.scalar (cmp x y != .gt)) := by
    rw [atMost, test, compare_of_liesAt ha hb]
    rfl
  rw [hatMost, Except.ok.injEq, Magnitude.scalar.injEq, bne_iff_ne, (cmp_compares x y).ne_gt]

/-- Of the three strict questions exactly one is answered with yes. -/
theorem exists_unique_question (o : Ordering) : ∃! question : Question,
    question ∈ [.less, .equal, .greater] ∧ question.holds (Value.orderSign o) = true := by
  cases o with
  | lt => exact ⟨.less, by decide, fun question => by cases question <;> decide⟩
  | eq => exact ⟨.equal, by decide, fun question => by cases question <;> decide⟩
  | gt => exact ⟨.greater, by decide, fun question => by cases question <;> decide⟩

/-! ## Units -/

/-- A value in a unit grows with the place where the quantity lies. -/
theorem valueIn_of_liesAt {reg : Registry ℚ} {text : String} {s : ℚ}
    (hu : reg.parse text = .ok u) (hs : u.magnitude = .scalar s) (ha : a.LiesAt u.dimension x) :
    a.valueIn reg text = .ok (.scalar ((x - u.offset) / s)) := by
  obtain ⟨hd, x', hx', rfl⟩ := ha
  rw [valueIn_of_parse hu hd, inUnit_of_scalar hs, hx']
  rfl

theorem strictMono_value (hs : 0 < z) (offset : ℚ) : StrictMono fun x : ℚ => (x - offset) / z :=
  fun _ _ h => div_lt_div_of_pos_right (sub_lt_sub_right h offset) hs

/-- **Exact orders.** Quantities of one dimension, each of them a number on a scale of its own, are
ordered by the sign of the difference of the places where they lie. Exactly one of them is less, or
both are equal, and each question has the answer of its mirror image. To be at most another one is
reflexive, transitive and total. In every registry that insertions lead to, every unit of the
dimension shows the quantities in that order. -/
theorem compare_exact (calls : List (List (Outcome (Insertion ℚ)))) {start : Registry ℚ}
    (hstart : start ∈ [.empty, .standard]) (ha : a.LiesAt d x) (hb : b.LiesAt d y)
    (hc : c.LiesAt d z) :
    (∃ o, a.compare b .exact = .ok (.scalar o) ∧ Value.orderSign o = SignType.sign (x - y)) ∧
    (∃! question : Question, question ∈ [.less, .equal, .greater] ∧
      question.ask a b .exact = .ok (.scalar true)) ∧
    (∀ question : Question, ∃ answer, question.ask a b .exact = .ok (.scalar answer) ∧
      question.mirror.ask b a .exact = .ok (.scalar answer)) ∧
    (a.atMost a .exact = .ok (.scalar true) ∧
      (a.atMost b .exact = .ok (.scalar true) ∨ b.atMost a .exact = .ok (.scalar true)) ∧
      (a.atMost b .exact = .ok (.scalar true) → b.atMost c .exact = .ok (.scalar true) →
        a.atMost c .exact = .ok (.scalar true))) ∧
    ∀ text u, (start.afterCalls calls).parse text = .ok u → u.dimension = d →
      ∃ v w, a.valueIn (start.afterCalls calls) text = .ok (.scalar v) ∧
        b.valueIn (start.afterCalls calls) text = .ok (.scalar w) ∧
        a.compare b .exact = .ok (.scalar (cmp v w)) := by
  refine ⟨⟨_, compare_of_liesAt ha hb, orderSign_cmp x y⟩, ?_, fun question => ?_, ⟨?_, ?_, ?_⟩,
    fun text u hu hd => ?_⟩
  · simpa only [ask_of_liesAt ha hb, Except.ok.injEq, Magnitude.scalar.injEq] using
      exists_unique_question (cmp x y)
  · refine ⟨_, ask_of_liesAt ha hb question, ?_⟩
    rw [ask_of_liesAt hb ha, Question.holds_swap, cmp_swap]
  · exact (atMost_of_liesAt ha ha).mpr le_rfl
  · rw [atMost_of_liesAt ha hb, atMost_of_liesAt hb ha]
    exact le_total x y
  · rw [atMost_of_liesAt ha hb, atMost_of_liesAt hb hc, atMost_of_liesAt ha hc]
    exact le_trans
  · subst hd
    obtain ⟨s, hs, hpos⟩ : u.IsPositive :=
      (Registry.closed_isPositive (Registry.regular_afterCalls calls hstart)).parse hu
    refine ⟨_, _, valueIn_of_liesAt hu hs ha, valueIn_of_liesAt hu hs hb, ?_⟩
    rw [compare_of_liesAt ha hb, (strictMono_value hpos u.offset).cmp_map_eq]

/-- A reading in degrees Celsius, one in degrees Fahrenheit and one in kelvin, on a thermometer that
is defined by degrees Celsius. -/
theorem compare_exact_thermometer :
    let calls : List (List (Outcome (Insertion ℚ))) :=
      [[.ok (.definition "mark" (.scalar 0.8) (some "deltaC") 316.4375)],
       [.error .badValue], [.ok (.otherName (.text "degX") "mark")]]
    let celsius : Quantity ℚ := ⟨.scalar 20, .base .temperature, 273.15⟩
    let fahrenheit : Quantity ℚ := ⟨.scalar (70 * (5 / 9)), .base .temperature, 459.67 * (5 / 9)⟩
    let kelvin : Quantity ℚ := .plain (.scalar 295) (.base .temperature)
    Registry.standard ∈ [Registry.empty, (Registry.standard : Registry ℚ)] ∧
    (celsius.LiesAt (.base .temperature) 293.15 ∧
      fahrenheit.LiesAt (.base .temperature) (529.67 * (5 / 9)) ∧
      kelvin.LiesAt (.base .temperature) 295) ∧
    (∃ o, celsius.compare fahrenheit .exact = .ok (.scalar o) ∧
      Value.orderSign o = SignType.sign ((293.15 : ℚ) - 529.67 * (5 / 9))) ∧
    celsius.atMost kelvin .exact = .ok (.scalar true) ∧
    ∃ u, (Registry.standard.afterCalls calls).parse "degX" = .ok u ∧
      u.dimension = .base .temperature ∧
      ∃ v w, celsius.valueIn (Registry.standard.afterCalls calls) "degX" = .ok (.scalar v) ∧
        fahrenheit.valueIn (Registry.standard.afterCalls calls) "degX" = .ok (.scalar w) ∧
        celsius.compare fahrenheit .exact = .ok (.scalar (cmp v w)) := by
  intro calls celsius fahrenheit kelvin
  have hstart : Registry.standard ∈ [Registry.empty, (Registry.standard : Registry ℚ)] :=
    List.mem_pair.mpr (Or.inr rfl)
  have hcelsius : celsius.LiesAt (.base .temperature) 293.15 := ⟨rfl, 20, rfl, by norm_num⟩
  have hfahrenheit : fahrenheit.LiesAt (.base .temperature) (529.67 * (5 / 9)) :=
    ⟨rfl, _, rfl, by norm_num⟩
  have hkelvin : kelvin.LiesAt (.base .temperature) 295 := ⟨rfl, 295, rfl, add_zero _⟩
  have hdegX : ∃ u, (Registry.standard.afterCalls calls).parse "degX" = .ok u ∧
      u.dimension = .base .temperature := by decide +kernel
  obtain ⟨u, hu, hd⟩ := hdegX
  obtain ⟨hsign, -, -, ⟨-, -, htrans⟩, hunits⟩ :=
    compare_exact calls hstart hcelsius hfahrenheit hkelvin
  have hfirst : celsius.atMost fahrenheit .exact = .ok (.scalar true) := by decide +kernel
  have hsecond : fahrenheit.atMost kelvin .exact = .ok (.scalar true) := by decide +kernel
  exact ⟨hstart, ⟨hcelsius, hfahrenheit, hkelvin⟩, hsign, htrans hfirst hsecond, u, hu, hd,
    hunits "degX" u hu hd⟩

end Quantity

end Quantities
