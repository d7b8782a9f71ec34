import Quantities.Proofs.Quantity.Memberwise
import Quantities.Quantity.Compare
import Quantities.Value.Basic

/-!
# Lists of orders

Quantities with lists for magnitudes are compared number by number, and so is a tolerance that is a
list. A magnitude of one number, in a list or not, takes part in every place.

* `Magnitude.FitTogether`: of three magnitudes, each two have lengths that fit.
* `Tolerance.Suits` is what a comparison asks of a tolerance, `Tolerance.given` the numbers that it
  consists of, and `Tolerance.number` how far two numbers may lie apart by one of these.
* `Quantity.compare_of_suits`: a tolerance that suits is compared with, as far as the lengths fit,
  and `Quantity.compare_of_not_suits`: any other one is refused, whatever the lengths are.
* `Quantity.compare_at?`: each order is that of the numbers that belong to its place.
* `Question` are the questions about an order.
* **`Quantity.compare_memberwise`**: so an order consists of the orders of single numbers, and
  lengths that do not fit together are refused.
-/

namespace Quantities

/-! ## Three magnitudes -/

namespace Magnitude

variable {α β γ δ : Type} {a : Magnitude α} {b : Magnitude β} {c : Magnitude δ}

/-- Each two of three lengths are equal, or one of them is one. -/
structure FitTogether (a : Magnitude α) (b : Magnitude β) (c : Magnitude δ) : Prop where
  first : a.Fits b
  second : a.Fits c
  third : b.Fits c

/-- The length of a combination of three: that of the operand whose length is not one. -/
def jointLength (a : Magnitude α) (b : Magnitude β) (c : Magnitude δ) : Nat :=
  if a.length = 1 then commonLength b c else a.length

theorem jointLength_swap (h : a.Fits b) : jointLength b a c = jointLength a b c := by
  unfold Fits at h
  unfold jointLength commonLength
  split_ifs <;> omega

section

variable {ε : Type} {d : Magnitude γ} {e : Magnitude ε}

/-- Two magnitudes are combined, and the result with a third one, which may have been combined with
the first one already. This succeeds exactly when the three fit together. -/
theorem fits_iff_fitTogether (hba : b.Fits a) (hd : d.length = commonLength b a)
    (he : e.length = c.length ∨ a.Fits c ∧ e.length = commonLength a c) :
    d.Fits e ↔ FitTogether a b c := by
  have hiff : FitTogether a b c ↔ a.Fits b ∧ a.Fits c ∧ b.Fits c :=
    ⟨fun ⟨hab, hac, hbc⟩ => ⟨hab, hac, hbc⟩, fun ⟨hab, hac, hbc⟩ => ⟨hab, hac, hbc⟩⟩
  rw [hiff]
  unfold Fits commonLength at *
  split_ifs at * <;> omega

theorem commonLength_eq_jointLength (hba : b.Fits a) (hd : d.length = commonLength b a)
    (he : e.length = c.length ∨ a.Fits c ∧ e.length = commonLength a c) (h : d.Fits e) :
    commonLength d e = jointLength a b c := by
  unfold jointLength Fits commonLength at *
  split_ifs at * <;> omega

end

end Magnitude

/-! ## Tolerances -/

namespace Tolerance

variable {α : Type} [Scalar α]

/-- The numbers that a tolerance consists of. -/
def given : Tolerance α → Magnitude α
  | exact => .scalar 0
  | fraction f => f
  | absolute t => t.magnitude

/-- The tolerance that consists of one number. -/
def withNumber (z : α) : Tolerance α → Tolerance α
  | exact => exact
  | fraction _ => fraction (.scalar z)
  | absolute t => absolute (t.withNumber z)

/-- How far another number may lie apart from `x` by the number `z` of the tolerance. -/
def number (x z : α) : Tolerance α → α
  | exact => 0
  | fraction _ => Scalar.abs x * z
  | absolute _ => z

/-- What a comparison with `q` for its first operand asks of a tolerance: it is a difference of the
same dimension, or a fraction that is zero wherever `q` has an offset. -/
def Suits (q : Quantity α) : Tolerance α → Prop
  | exact => True
  | fraction f => q.hasOffset = true → f.anyNonzero = false
  | absolute t => t.dimension = q.dimension ∧ t.hasOffset = false

/-- The magnitude that a tolerance comes to, place by place. -/
structure Applied (q : Quantity α) (t : Tolerance α) (m : Magnitude α) : Prop where
  isArray : (q.magnitude.isArray || m.isArray) = (q.magnitude.isArray || t.given.isArray)
  length : m.length = t.given.length ∨
    q.magnitude.Fits t.given ∧ m.length = Magnitude.commonLength q.magnitude t.given
  at? : ∀ i x w, q.magnitude.at? i = some x → m.at? i = some w →
    ∃ z, t.given.at? i = some z ∧ w = t.number x z

variable {q : Quantity α} {t : Tolerance α}

theorem toleranceMagnitude_absolute {u : Quantity α} (h : (absolute u).Suits q) :
    q.toleranceMagnitude (.absolute u) = .ok u.magnitude := by
  rw [Quantity.toleranceMagnitude, if_neg (not_not.mpr h.1), if_neg (Bool.eq_false_iff.mp h.2)]

theorem toleranceMagnitude_fraction {f : Magnitude α} (h : (fraction f).Suits q) :
    q.toleranceMagnitude (.fraction f) =
      Magnitude.combine (fun m x => Scalar.abs m * x) q.magnitude f := by
  refine if_neg (Bool.eq_false_iff.mp ?_)
  cases ho : q.hasOffset with
  | false => rfl
  | true => exact h ho

/-- A tolerance that suits comes to a magnitude, unless it is a fraction that does not fit. -/
theorem toleranceMagnitude_of_suits (h : t.Suits q) :
    (∃ m, q.toleranceMagnitude t = .ok m ∧ t.Applied q m) ∨
      ¬ q.magnitude.Fits t.given ∧
        q.toleranceMagnitude t = .error (.lengthMismatch q.magnitude.length t.given.length) := by
  cases t with
  | exact =>
    refine Or.inl ⟨.scalar 0, rfl, rfl, Or.inl rfl, fun i x w _ hw => ⟨0, rfl, ?_⟩⟩
    exact (Option.some.inj hw).symm
  | absolute t =>
    exact Or.inl ⟨t.magnitude, toleranceMagnitude_absolute h, rfl, Or.inl rfl,
      fun i x w _ hw => ⟨w, hw, rfl⟩⟩
  | fraction f =>
    have heq := toleranceMagnitude_fraction h
    by_cases hfits : q.magnitude.Fits f
    · obtain ⟨m, hm, hc⟩ := Magnitude.combine_of_fits (fun m x => Scalar.abs m * x) hfits
      refine Or.inl ⟨m, heq.trans hm, ?_, Or.inr ⟨hfits, hc.length⟩, fun i x w hx hw => ?_⟩
      · rw [hc.isArray, ← Bool.or_assoc, Bool.or_self]
        rfl
      · obtain ⟨x', z, hx', hz, hw⟩ := hc.at? hw
        obtain rfl := Option.some.inj (hx.symm.trans hx')
        exact ⟨z, hz, hw⟩
    · exact Or.inr ⟨hfits, heq.trans (Magnitude.combine_of_not_fits _ hfits)⟩

/-- A tolerance that does not suit is refused, whatever the lengths are. -/
theorem toleranceMagnitude_of_not_suits (h : ¬ t.Suits q) :
    ∃ f, q.toleranceMagnitude t = .error f ∧ f.kind ≠ .lengthMismatch := by
  cases t with
  | exact => exact absurd trivial h
  | absolute t =>
    by_cases hd : t.dimension = q.dimension
    · have ho : t.hasOffset = true := by simpa [Suits, hd] using h
      refine ⟨.offsetTolerance, ?_, by simp [Failure.kind]⟩
      rw [Quantity.toleranceMagnitude, if_neg (not_not.mpr hd), if_pos ho]
    · exact ⟨_, if_pos hd, Failure.kind_showing_ne (by simp [Failure.kind]) (by decide) _⟩
  | fraction f =>
    have hcondition : (q.hasOffset && f.anyNonzero) = true := by
      by_contra hc
      exact h (by simpa [Suits] using hc)
    exact ⟨.fractionalTolerance, if_pos hcondition, by simp [Failure.kind]⟩

end Tolerance

/-! ## Orders -/

namespace Quantity

variable {α : Type} [Scalar α] {a b : Quantity α} {t : Tolerance α} {m : Magnitude Ordering}

/-- The order that is found in one place, by the tolerance `z` as given. -/
def orderAt (a b : Quantity α) (t : Tolerance α) (x y z : α) : Ordering :=
  orderOf (y + b.offset - (x + a.offset)) (t.number x z)

/-- An order place by place. -/
structure Ordered (a b : Quantity α) (t : Tolerance α) (m : Magnitude Ordering) : Prop where
  isArray : m.isArray = (a.magnitude.isArray || b.magnitude.isArray || t.given.isArray)
  length : m.length = Magnitude.jointLength a.magnitude b.magnitude t.given
  at? : ∀ i o, m.at? i = some o → ∃ x y z, a.magnitude.at? i = some x ∧
    b.magnitude.at? i = some y ∧ t.given.at? i = some z ∧ o = orderAt a b t x y z

/-- The differences, whose lengths are looked at first. -/
theorem differences_eq (a b : Quantity α) :
    Magnitude.combine (fun y x => y - x) b.effective a.effective =
      Magnitude.combine (fun y x => y + b.offset - (x + a.offset)) b.magnitude a.magnitude :=
  Magnitude.combine_map _ _ _ _ _

theorem compare_of_like (hd : a.dimension = b.dimension) : a.compare b t =
    a.toleranceMagnitude t >>= fun tol =>
      Magnitude.combine (fun y x => y + b.offset - (x + a.offset)) b.magnitude a.magnitude >>=
        fun diff => Magnitude.combine orderOf diff tol := by
  rw [compare, Arithmetic.requireLike_ok hd, ← differences_eq]
  rfl

/-- A comparison refuses unlike quantities and tolerances that do not suit, whatever the lengths
are. -/
theorem compare_of_not_suits (h : ¬ (a.dimension = b.dimension ∧ t.Suits a)) :
    ∃ f, a.compare b t = .error f ∧ f.kind ≠ .lengthMismatch := by
  by_cases hd : a.dimension = b.dimension
  · obtain ⟨f, hf, hkind⟩ := Tolerance.toleranceMagnitude_of_not_suits fun hs => h ⟨hd, hs⟩
    refine ⟨f, ?_, hkind⟩
    rw [compare_of_like hd, hf]
    rfl
  · rw [compare, Arithmetic.requireLike_error hd]
    exact ⟨_, rfl, Failure.kind_showing_ne (by simp [Failure.kind]) (by decide) _⟩

/-- What suits is compared when the lengths fit together, and only then. -/
theorem compare_of_suits (hd : a.dimension = b.dimension) (hs : t.Suits a) :
    (Magnitude.FitTogether a.magnitude b.magnitude t.given ∧
      ∃ m, a.compare b t = .ok m ∧ Ordered a b t m) ∨
    (¬ Magnitude.FitTogether a.magnitude b.magnitude t.given ∧
      ∃ k n, a.compare b t = .error (.lengthMismatch k n)) := by
  rw [compare_of_like hd]
  -- Lengths are looked at three times: by a fraction, by the differences, and by both together.
  rcases Tolerance.toleranceMagnitude_of_suits hs with ⟨tol, htol, happlied⟩ | ⟨hfits, herror⟩
  swap
  · refine Or.inr ⟨fun h => hfits h.second, a.magnitude.length, t.given.length, ?_⟩
    rw [herror]
    rfl
  rw [htol]
  by_cases hba : b.magnitude.Fits a.magnitude
  swap
  · refine Or.inr ⟨fun h => hba h.first.symm, b.magnitude.length, a.magnitude.length, ?_⟩
    rw [Magnitude.combine_of_not_fits _ hba]
    rfl
  obtain ⟨diff, hdiff, hcd⟩ := Magnitude.combine_of_fits
    (fun y x => y + b.offset - (x + a.offset)) hba
  rw [hdiff]
  have hiff := Magnitude.fits_iff_fitTogether hba hcd.length happlied.length
  by_cases hdt : diff.Fits tol
  swap
  · exact Or.inr ⟨fun h => hdt (hiff.mpr h), diff.length, tol.length,
      Magnitude.combine_of_not_fits _ hdt⟩
  obtain ⟨m, hm, hc⟩ := Magnitude.combine_of_fits orderOf hdt
  refine Or.inl ⟨hiff.mp hdt, m, hm, ?_, ?_, fun i o ho => ?_⟩
  · rw [hc.isArray, hcd.isArray, Bool.or_assoc, happlied.isArray, ← Bool.or_assoc,
      Bool.or_comm a.magnitude.isArray]
  · exact hc.length.trans
      (Magnitude.commonLength_eq_jointLength hba hcd.length happlied.length hdt)
  · obtain ⟨d, w, hd, hw, rfl⟩ := hc.at? ho
    obtain ⟨y, x, hy, hx, rfl⟩ := hcd.at? hd
    obtain ⟨z, hz, rfl⟩ := happlied.at? i x w hx hw
    exact ⟨x, y, z, hx, hy, hz, rfl⟩

/-- **Each order is that of the numbers that belong to its place.** -/
theorem compare_at? (h : a.compare b t = .ok m) :
    a.dimension = b.dimension ∧ t.Suits a ∧
      Magnitude.FitTogether a.magnitude b.magnitude t.given ∧ Ordered a b t m := by
  by_cases hs : a.dimension = b.dimension ∧ t.Suits a
  · rcases compare_of_suits hs.1 hs.2 with ⟨hfits, m', hm', ho⟩ | ⟨-, k, n, herror⟩
    · obtain rfl := Except.ok.inj (h.symm.trans hm')
      exact ⟨hs.1, hs.2, hfits, ho⟩
    · exact nomatch h.symm.trans herror
  · obtain ⟨f, hf, -⟩ := compare_of_not_suits hs
    exact nomatch h.symm.trans hf

/-- An order has a member in each place where both operands have one, and the tolerance. -/
theorem Ordered.exists_at? {i : Nat} {x y z : α} (h : Ordered a b t m)
    (hx : a.magnitude.at? i = some x) (hy : b.magnitude.at? i = some y)
    (hz : t.given.at? i = some z) : ∃ o, m.at? i = some o := by
  have ha := Magnitude.exists_at?_iff.mp ⟨x, hx⟩
  have hb := Magnitude.exists_at?_iff.mp ⟨y, hy⟩
  have ht := Magnitude.exists_at?_iff.mp ⟨z, hz⟩
  rw [Magnitude.exists_at?_iff, h.length]
  unfold Magnitude.jointLength Magnitude.commonLength
  split_ifs <;> omega

theorem test_ok {question : Ordering → Bool} {e : Magnitude Bool}
    (h : test question a b t = .ok e) : ∃ m, a.compare b t = .ok m ∧ m.map question = e := by
  unfold test at h
  cases hm : a.compare b t with
  | error f => exact nomatch hm ▸ h
  | ok m =>
    rw [hm] at h
    exact ⟨m, rfl, Except.ok.inj h⟩

/-! ## One number in each place -/

/-- A tolerance that suits still does when single numbers take the place of lists. -/
theorem suits_withNumber {x z : α} {i : Nat} (hs : t.Suits a) (hz : t.given.at? i = some z) :
    (t.withNumber z).Suits (a.withNumber x) := by
  cases t with
  | exact => trivial
  | absolute t => exact hs
  | fraction f =>
    intro ho
    have hzero : (z != 0) = false :=
      Bool.eq_false_iff.mpr (List.any_eq_false.mp (hs ho) z (Magnitude.mem_of_at? hz))
    show ([z].any fun x => x != 0) = false
    rw [List.any_cons, hzero]
    rfl

/-- The order of single numbers. -/
theorem compare_withNumber {x y z : α} {i : Nat} (hd : a.dimension = b.dimension)
    (hs : t.Suits a) (hz : t.given.at? i = some z) :
    (a.withNumber x).compare (b.withNumber y) (t.withNumber z) =
      .ok (.scalar (orderAt a b t x y z)) := by
  have hd' : (a.withNumber x).dimension = (b.withNumber y).dimension := hd
  have hs' : (t.withNumber z).Suits (a.withNumber x) := suits_withNumber hs hz
  rw [compare_of_like hd']
  cases t with
  | exact => rfl
  | absolute t =>
    rw [Tolerance.withNumber, Tolerance.toleranceMagnitude_absolute hs']
    rfl
  | fraction f =>
    rw [Tolerance.withNumber, Tolerance.toleranceMagnitude_fraction hs']
    rfl

/-- An order consists of the orders of single numbers. -/
structure ComparedMemberwise (a b : Quantity α) (t : Tolerance α) (m : Magnitude Ordering) :
    Prop where
  /-- It is a single one exactly when no operand is a list, nor the tolerance. -/
  isArray : m.isArray = false ↔ a.magnitude.isArray = false ∧ b.magnitude.isArray = false ∧
    t.given.isArray = false
  /-- It is as long as the one of the three whose length is not one. -/
  length : m.length = Magnitude.jointLength a.magnitude b.magnitude t.given
  /-- Each of its members is the order of the numbers that belong there, by the number of the
  tolerance that belongs there. -/
  member : ∀ i < m.length, ∃ x y z o, a.magnitude.at? i = some x ∧ b.magnitude.at? i = some y ∧
    t.given.at? i = some z ∧ m.members[i]? = some o ∧
      (a.withNumber x).compare (b.withNumber y) (t.withNumber z) = .ok (.scalar o)

theorem comparedMemberwise (hd : a.dimension = b.dimension) (hs : t.Suits a)
    (h : Ordered a b t m) : ComparedMemberwise a b t m := by
  refine ⟨?_, h.length, fun i hi => ?_⟩
  · rw [h.isArray, Bool.or_eq_false_iff, Bool.or_eq_false_iff, and_assoc]
  · have ho : m.members[i]? = some m.members[i] := List.getElem?_eq_getElem hi
    obtain ⟨x, y, z, hx, hy, hz, heq⟩ := h.at? i _ ((Magnitude.at?_of_lt hi).trans ho)
    exact ⟨x, y, z, _, hx, hy, hz, ho, by rw [compare_withNumber hd hs hz, heq]⟩

end Quantity

/-! ## Questions -/

/-- The questions about an order. -/
inductive Question where
  | equal | less | atMost | greater | atLeast
deriving DecidableEq, Repr

namespace Question

/-- The answer for two quantities. -/
def ask {α : Type} [Scalar α] : Question → Quantity α → Quantity α → Tolerance α →
    Outcome (Magnitude Bool)
  | equal => Quantity.equal
  | less => Quantity.less
  | atMost => Quantity.atMost
  | greater => Quantity.greater
  | atLeast => Quantity.atLeast

/-- What the question asks of an order as a number. -/
def holds (n : Int) : Question → Bool
  | equal => n = 0
  | less => n < 0
  | atMost => n ≤ 0
  | greater => 0 < n
  | atLeast => 0 ≤ n

/-- A question is asked of every member of an order. -/
theorem ask_eq {α : Type} [Scalar α] (question : Question) (a b : Quantity α) (t : Tolerance α) :
    question.ask a b t = (a.compare b t).map (Magnitude.map fun o =>
      question.holds (Value.orderSign o)) := by
  cases question <;>
    exact congrArg (fun test => (a.compare b t).map (Magnitude.map test))
      (funext fun o => by cases o <;> rfl)

end Question

/-! ## Every comparison -/

/-- **Lists are compared member by member.** A comparison refuses operands for their lengths exactly
when two of the three lengths differ and neither is one, after the dimensions and the tolerance were
judged; otherwise the order consists of the orders of single numbers. The questions about an order
are asked of every member. -/
theorem Quantity.compare_memberwise (a b : Quantity Float) (t : Tolerance Float) :
    (¬ (a.dimension = b.dimension ∧ t.Suits a) →
      ∃ f, a.compare b t = .error f ∧ f.kind ≠ .lengthMismatch) ∧
    (a.dimension = b.dimension ∧ t.Suits a →
      ((∃ f, a.compare b t = .error f ∧ f.kind = .lengthMismatch) ↔
        ¬ Magnitude.FitTogether a.magnitude b.magnitude t.given) ∧
      (Magnitude.FitTogether a.magnitude b.magnitude t.given →
        ∃ m, a.compare b t = .ok m ∧ ComparedMemberwise a b t m)) ∧
    ∀ question : Question, question.ask a b t = (a.compare b t).map
      (Magnitude.map fun o => question.holds (Value.orderSign o)) := by
  refine ⟨compare_of_not_suits, fun ⟨hd, hs⟩ => ?_, fun question => question.ask_eq a b t⟩
  rcases compare_of_suits hd hs with ⟨hfits, m, hm, ho⟩ | ⟨hnot, k, n, herror⟩
  · refine ⟨⟨fun ⟨f, hf, _⟩ => ?_, fun hnot => absurd hfits hnot⟩, fun _ =>
      ⟨m, hm, comparedMemberwise hd hs ho⟩⟩
    exact nomatch hm.symm.trans hf
  · exact ⟨⟨fun _ => hnot, fun _ => ⟨_, herror, rfl⟩⟩, fun hfits => absurd hfits hnot⟩

/-- Three lengths and one, up to fractions of the three or up to two lengths. What is undefined is
equal to everything. Readings in degrees Celsius have no fractions. -/
theorem Quantity.compare_memberwise_metres :
    let metres (m : Magnitude Float) : Quantity Float := .plain m (.base .length)
    let celsius : Quantity Float := ⟨.scalar 20, .base .temperature, 273.15⟩
    let a := metres (.array [-2, 0 / 0, 4])
    let b := metres (.scalar 3)
    let fractions := Tolerance.fraction (.array [3, 0, 0.125])
    let lengths := Tolerance.absolute (metres (.array [1, 2]))
    (a.dimension = b.dimension ∧ fractions.Suits a ∧
      a.compare b fractions = .ok (.array [.eq, .eq, .gt]) ∧
      ComparedMemberwise a b fractions (.array [.eq, .eq, .gt]) ∧
      Question.atMost.ask a b fractions = .ok (.array [true, true, false])) ∧
    (a.dimension = b.dimension ∧ lengths.Suits a ∧
      ∃ f, a.compare b lengths = .error f ∧ f.kind = .lengthMismatch) ∧
    ¬ (celsius.dimension = celsius.dimension ∧ fractions.Suits celsius) ∧
      ∃ f, celsius.compare celsius fractions = .error f ∧ f.kind ≠ .lengthMismatch := by
  intro metres celsius a b fractions lengths
  have hsuits : fractions.Suits a := fun h => absurd h (by decide +kernel)
  have hsuits' : lengths.Suits a := ⟨rfl, by decide +kernel⟩
  have hcelsius : ¬ (celsius.dimension = celsius.dimension ∧ fractions.Suits celsius) := fun h =>
    absurd (h.2 (by decide +kernel)) (by decide +kernel)
  have hcompare : a.compare b fractions = .ok (.array [.eq, .eq, .gt]) := by decide +kernel
  obtain ⟨m, hm, hmemberwise⟩ := ((compare_memberwise a b fractions).2.1 ⟨rfl, hsuits⟩).2
    ⟨by decide, by decide, by decide⟩
  obtain rfl := Except.ok.inj (hm.symm.trans hcompare)
  refine ⟨⟨rfl, hsuits, hcompare, hmemberwise, ?_⟩, ⟨rfl, hsuits', ?_⟩, hcelsius,
    (compare_memberwise celsius celsius fractions).1 hcelsius⟩
  · rw [(compare_memberwise a b fractions).2.2, hcompare]
    rfl
  · exact ((compare_memberwise a b lengths).2.1 ⟨rfl, hsuits'⟩).1.mpr fun h =>
      absurd h.second (by decide)

end Quantities
