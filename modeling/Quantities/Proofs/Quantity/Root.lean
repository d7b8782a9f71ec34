import Quantities.Proofs.Dimension.Root
import Quantities.Proofs.Number.SquareRoot
import Quantities.Quantity.Basic

/-!
# Roots of quantities

The root of an array is taken number by number. Whether it is refused depends on the degree, the
dimension and the offset, which all numbers of the array share, and on whether one of the numbers is
below zero. A root is a power, and for powers the library of the platform is asked, which need not
round to nearest; only the square roots of an array are not asked of it.

* `rootUsing`: the root with the powers of any library;
* `rootDimension`: the checks, which see of the magnitude only whether it has a negative number;
* `rootUsing_eq`: nothing but the checks refuses a root;
* `arrayRoot`, `scalarRoot`: what a number becomes in an array and on its own;
* **`root_memberwise`**: the root of an array is made of the roots of its numbers, but for square
  roots: that of negative zero keeps its sign in an array and loses it on its own, and that of a
  finite number above zero is the same where the library rounds its power to nearest.

Out of scope: that a library answers alike whenever it is asked, for an array or for a number; and
where exactly a library does not round to nearest.
-/

namespace Quantities.Quantity

open Number (HalfPowers)

variable {d e : Dimension} {o x : Float} {n : Int} {xs : List Float} {p : Float → Float → Float}

/-- The root, with the powers of a library. -/
def rootUsing (p : Float → Float → Float) (q : Quantity Float) (n : Int) :
    Outcome (Quantity Float) :=
  @root Float (.ofPow p) q n

/-- The root is the one with powers that are rounded to nearest. -/
theorem rootUsing_pow (q : Quantity Float) (n : Int) : q.rootUsing Number.pow n = q.root n := rfl

/-! ## The checks -/

/-- The dimension of a root, unless it is refused. Of the magnitude no more is known than whether
some number is below zero. -/
def rootDimension (d : Dimension) (o : Float) (n : Int) (negative : Bool) : Outcome Dimension :=
  if n < 1 then .error (.showing [n] (.rootDegree (Number.intText n)))
  else if o != 0 && 1 < n then .error .offsetRooted
  else if negative then .error .negativeRoot
  else match d.root? n with
    | none => .error (.showing (n :: d.toList) (.fractionalRoot (Number.intText n) d))
    | some e => if n ≠ 1 ∧ Number.integerLimit ≤ n.natAbs then .error .outOfRange else .ok e

/-- A root that is not refused, of a given dimension. -/
def rootWith (p : Float → Float → Float) (q : Quantity Float) (n : Int) (e : Dimension) :
    Quantity Float :=
  if n = 1 then ⟨q.magnitude, e, q.offset⟩
  else plain (@Magnitude.root Float (.ofPow p) n.toNat q.magnitude) e

/-- **Nothing but the checks refuses a root.** -/
theorem rootUsing_eq (p : Float → Float → Float) (q : Quantity Float) (n : Int) :
    q.rootUsing p n =
      (rootDimension q.dimension q.offset n q.magnitude.anyNegative).map (rootWith p q n) := by
  have hnegative : @Magnitude.anyNegative Float (Rooted.ofPow p).toScalar q.magnitude =
      q.magnitude.anyNegative := rfl
  unfold rootUsing root rootDimension hasOffset
  rw [hnegative]
  split
  · rfl
  split
  · rfl
  split
  · rfl
  cases q.dimension.root? n with
  | none => rfl
  | some e =>
    by_cases h1 : n = 1
    · simp [h1, rootWith, Except.map]
    · by_cases hlimit : Number.integerLimit ≤ n.natAbs
      · simp [h1, hlimit, Except.map]
      · simp only [h1, hlimit, rootWith, Except.map, ne_eq, not_false_eq_true, and_false, if_false]
        rfl

theorem root_error (q : Quantity Float) : (∃ f, q.rootUsing p n = .error f) ↔
    ∃ f, rootDimension q.dimension q.offset n q.magnitude.anyNegative = .error f := by
  rw [rootUsing_eq]
  cases rootDimension q.dimension q.offset n q.magnitude.anyNegative <;> simp [Except.map]

theorem root_ok (q : Quantity Float) {r : Quantity Float} : q.rootUsing p n = .ok r ↔
    ∃ e, rootDimension q.dimension q.offset n q.magnitude.anyNegative = .ok e ∧
      rootWith p q n e = r := by
  rw [rootUsing_eq]
  cases rootDimension q.dimension q.offset n q.magnitude.anyNegative <;> simp [Except.map]

/-- A number below zero is always refused. -/
theorem rootDimension_negative (d : Dimension) (o : Float) (n : Int) :
    ∃ f, rootDimension d o n true = .error f := by
  unfold rootDimension
  split
  · exact ⟨_, rfl⟩
  split
  · exact ⟨_, rfl⟩
  · exact ⟨_, rfl⟩

theorem one_lt_integerLimit : 1 < Number.integerLimit := by decide +kernel

/-- What is refused where no number is below zero: an offset, a dimension that is no power, and a
degree beyond the range of doubles. -/
theorem rootDimension_error (hn : 1 ≤ n) : (∃ f, rootDimension d o n false = .error f) ↔
    ((o != 0) = true ∧ 1 < n) ∨ (∀ r : Dimension, r ^ n ≠ d) ∨ Number.integerLimit ≤ n.natAbs := by
  rw [← Dimension.root?_eq_none_iff (by omega : n ≠ 0)]
  have hone : Number.integerLimit ≤ n.natAbs → n ≠ 1 := by
    rintro hlimit rfl
    exact absurd hlimit (not_le.mpr one_lt_integerLimit)
  unfold rootDimension
  rw [if_neg (by omega : ¬ n < 1)]
  by_cases hoffset : (o != 0) = true ∧ 1 < n
  · simp [hoffset]
  · rw [if_neg (by simpa using hoffset)]
    cases d.root? n with
    | none => simp
    | some e =>
      by_cases hlimit : Number.integerLimit ≤ n.natAbs
      · simp [hlimit, hone hlimit]
      · simp [hlimit, hoffset]

/-! ## The numbers -/

/-- What a number becomes in the root of an array. -/
def arrayRoot (p : Float → Float → Float) (n : Int) (x : Float) : Float :=
  if n = 1 then x else if n = 2 then Float.sqrt x else p x (1.0 / Float.ofNat n.toNat)

/-- What a number becomes in its own root. -/
def scalarRoot (p : Float → Float → Float) (n : Int) (x : Float) : Float :=
  if n = 1 then x else p x (1.0 / Float.ofNat n.toNat)

theorem arrayRoot_eq (h : n ≠ 2) : arrayRoot p n x = scalarRoot p n x := by
  rw [arrayRoot, scalarRoot, if_neg h]

theorem arrayRoot_two (p : Float → Float → Float) (x : Float) : arrayRoot p 2 x = Float.sqrt x :=
  rfl

theorem scalarRoot_two (p : Float → Float → Float) (x : Float) : scalarRoot p 2 x = p x 0.5 := by
  have hhalf : (1.0 / Float.ofNat 2 : Float) = 0.5 := by decide +kernel
  exact congrArg (p x) hhalf

theorem rootWith_array (xs : List Float) (d : Dimension) (o : Float) (n : Int) (e : Dimension) :
    rootWith p ⟨.array xs, d, o⟩ n e =
      ⟨.array (xs.map (arrayRoot p n)), e, if n = 1 then o else 0⟩ := by
  have htwo : n.toNat = 2 ↔ n = 2 := by omega
  unfold rootWith arrayRoot
  by_cases h1 : n = 1
  · simp [h1]
  · simp only [h1, if_false, plain, Magnitude.root, htwo]
    rfl

theorem rootWith_scalar (x : Float) (d : Dimension) (o : Float) (n : Int) (e : Dimension) :
    rootWith p ⟨.scalar x, d, o⟩ n e =
      ⟨.scalar (scalarRoot p n x), e, if n = 1 then o else 0⟩ := by
  unfold rootWith scalarRoot
  split
  · rfl
  · rfl

/-! ## Arrays -/

theorem anyNegative_array (xs : List Float) :
    (Magnitude.array xs).anyNegative = true ↔
      ∃ x ∈ xs, (Magnitude.scalar x).anyNegative = true := by
  simp [Magnitude.anyNegative, Magnitude.members]

/-- The root of an array is refused when that of one of its numbers is. -/
theorem root_array_error (hne : xs ≠ []) :
    (∃ f, (⟨.array xs, d, o⟩ : Quantity Float).rootUsing p n = .error f) ↔
      ∃ x ∈ xs, ∃ f, (⟨.scalar x, d, o⟩ : Quantity Float).rootUsing p n = .error f := by
  simp only [root_error]
  by_cases hnegative : (Magnitude.array xs).anyNegative = true
  · obtain ⟨x, hx, hxn⟩ := (anyNegative_array xs).mp hnegative
    rw [hnegative]
    refine ⟨fun h => ⟨x, hx, ?_⟩, fun _ => rootDimension_negative d o n⟩
    rwa [hxn]
  · have hnone : ∀ x ∈ xs, (Magnitude.scalar x).anyNegative = false := fun x hx =>
      Bool.eq_false_iff.mpr fun h => hnegative ((anyNegative_array xs).mpr ⟨x, hx, h⟩)
    rw [Bool.eq_false_iff.mpr hnegative]
    constructor
    · intro h
      obtain ⟨x, hx⟩ := List.exists_mem_of_ne_nil xs hne
      exact ⟨x, hx, by rwa [hnone x hx]⟩
    · rintro ⟨x, hx, h⟩
      rwa [hnone x hx] at h

/-- The roots of the numbers of an array, each taken on its own. None of the numbers is below
zero. -/
theorem root_array_ok {r : Quantity Float}
    (h : (⟨.array xs, d, o⟩ : Quantity Float).rootUsing p n = .ok r) :
    r.magnitude = .array (xs.map (arrayRoot p n)) ∧
      ∀ x ∈ xs, ¬ x < 0 ∧ (⟨.scalar x, d, o⟩ : Quantity Float).rootUsing p n =
        .ok ⟨.scalar (scalarRoot p n x), r.dimension, r.offset⟩ := by
  obtain ⟨e, he, rfl⟩ := (root_ok _).mp h
  have hnegative : (Magnitude.array xs).anyNegative = false := by
    refine Bool.eq_false_iff.mpr fun hneg => ?_
    obtain ⟨f, hf⟩ := rootDimension_negative d o n
    rw [hneg] at he
    exact nomatch hf.symm.trans he
  rw [hnegative] at he
  rw [rootWith_array]
  refine ⟨rfl, fun x hx => ?_⟩
  have hx : (Magnitude.scalar x).anyNegative = false :=
    Bool.eq_false_iff.mpr fun h =>
      Bool.eq_false_iff.mp hnegative ((anyNegative_array xs).mpr ⟨x, hx, h⟩)
  refine ⟨fun hlt => ?_, (root_ok _).mpr ⟨e, by rwa [hx], rootWith_scalar x d o n e⟩⟩
  simp [Magnitude.anyNegative, Magnitude.members, Scalar.lt, hlt] at hx

/-- How a number of a square root of an array stands to its own square root. -/
structure SquareRoots (p : Float → Float → Float) (x y z : Float) : Prop where
  array : y = Float.sqrt x
  scalar : z = p x 0.5
  negativeZero : x = -0.0 → y = -0.0 ∧ z = 0.0
  same : x ≠ -0.0 → (y = z ↔ (0 < x ∧ x.isFinite = true → z = Number.pow x 0.5))

theorem squareRoots (hp : HalfPowers p) (hx : ¬ x < 0) :
    SquareRoots p x (arrayRoot p 2 x) (scalarRoot p 2 x) := by
  rw [arrayRoot_two, scalarRoot_two]
  refine ⟨rfl, rfl, ?_, Number.sqrt_eq_iff hp hx⟩
  rintro rfl
  exact ⟨by decide +kernel, hp.negativeZero⟩

/-- **The root of an array, number by number.** Let `p` be the powers of a library. The root of an
array is refused when the root of a number is, or in an array without numbers by the offset, the
dimension or the degree. Else it has the roots of the numbers, if the degree is other than two. In an
array the square root is rounded to nearest, while a number on its own has its power one half: of
negative zero they differ, of a finite number above zero they are the same exactly where the library
rounds to nearest, and of all others they are the same. -/
theorem root_memberwise (p : Float → Float → Float) (hp : HalfPowers p) (xs : List Float)
    (d : Dimension) (o : Float) {n : Int} (hn : 1 ≤ n) :
    let array : Quantity Float := ⟨.array xs, d, o⟩
    let single (x : Float) : Quantity Float := ⟨.scalar x, d, o⟩
    (xs ≠ [] → ((∃ f, array.rootUsing p n = .error f) ↔
      ∃ x ∈ xs, ∃ f, (single x).rootUsing p n = .error f)) ∧
    (xs = [] → ((∃ f, array.rootUsing p n = .error f) ↔
      (array.hasOffset = true ∧ 1 < n) ∨ (∀ r : Dimension, r ^ n ≠ d) ∨
        Number.integerLimit ≤ n.natAbs)) ∧
    ∀ r, array.rootUsing p n = .ok r → ∃ ys, r.magnitude = .array ys ∧
      List.Forall₂ (fun x y => ∃ z,
        (single x).rootUsing p n = .ok ⟨.scalar z, r.dimension, r.offset⟩ ∧
          (n ≠ 2 → y = z) ∧ (n = 2 → SquareRoots p x y z)) xs ys := by
  intro array single
  refine ⟨root_array_error, ?_, ?_⟩
  · rintro rfl
    rw [root_error]
    exact rootDimension_error hn
  · intro r hr
    obtain ⟨hmagnitude, hsingle⟩ := root_array_ok hr
    refine ⟨_, hmagnitude, List.forall₂_map_right_iff.mpr (List.forall₂_same.mpr fun x hx => ?_)⟩
    obtain ⟨hsign, hroot⟩ := hsingle x hx
    refine ⟨_, hroot, arrayRoot_eq, ?_⟩
    rintro rfl
    exact squareRoots hp hsign

/-- With powers that are rounded to nearest: an array with a negative zero that has a square root,
one with a negative number that has none, and one without numbers whose degree is out of range. -/
theorem root_memberwise_square :
    let d : Dimension := .base .length ^ (12 : Int)
    let single (x : Float) : Quantity Float := ⟨.scalar x, d, 0⟩
    let r : Quantity Float := ⟨.array [-0.0, Float.sqrt 2, 4], .base .length ^ (6 : Int), 0⟩
    HalfPowers Number.pow ∧
    ((1 : Int) ≤ 2 ∧
      (⟨.array [-0.0, 2, 16], d, 0⟩ : Quantity Float).rootUsing Number.pow 2 = .ok r ∧
      ∃ ys, r.magnitude = .array ys ∧
        List.Forall₂ (fun x y => ∃ z,
          (single x).rootUsing Number.pow 2 = .ok ⟨.scalar z, r.dimension, r.offset⟩ ∧
            ((2 : Int) ≠ 2 → y = z) ∧ ((2 : Int) = 2 → SquareRoots Number.pow x y z))
          [-0.0, 2, 16] ys) ∧
    ([4, -1] ≠ ([] : List Float) ∧
      (⟨.array [4, -1], d, 0⟩ : Quantity Float).rootUsing Number.pow 2 = .error .negativeRoot ∧
      ∃ x ∈ [4, -1], ∃ f, (single x).rootUsing Number.pow 2 = .error f) ∧
    ((1 : Int) ≤ 2 ^ 1024 ∧
      ∃ f, (⟨.array [], 1, 0⟩ : Quantity Float).rootUsing Number.pow (2 ^ 1024) = .error f) := by
  intro d single r
  have hdegree : (1 : Int) ≤ 2 ^ 1024 := by decide +kernel
  have hlimit : Number.integerLimit ≤ ((2 : Int) ^ 1024).natAbs := by decide +kernel
  have hroot : (⟨.array [-0.0, 2, 16], d, 0⟩ : Quantity Float).rootUsing Number.pow 2 = .ok r := by
    decide +kernel
  have hnegative : (⟨.array [4, -1], d, 0⟩ : Quantity Float).rootUsing Number.pow 2 =
      .error .negativeRoot := by
    decide +kernel
  have hne : [4, -1] ≠ ([] : List Float) := nofun
  have hpow : HalfPowers Number.pow := Number.halfPowers_pow
  exact ⟨hpow, ⟨by decide, hroot, (root_memberwise _ hpow _ d 0 (by decide)).2.2 r hroot⟩,
    ⟨hne, hnegative, ((root_memberwise _ hpow _ d 0 (by decide)).1 hne).mp ⟨_, hnegative⟩⟩,
    ⟨hdegree, ((root_memberwise _ hpow [] 1 0 hdegree).2.1 rfl).mpr (Or.inr (Or.inr hlimit))⟩⟩

/-- The square root of negative zero has two signs; and no number, no offset and no dimension keeps
a degree out of range from being refused. -/
theorem root_array_negative_zero :
    ((⟨.array [-0.0], 1, 0⟩ : Quantity Float).root 2 = .ok ⟨.array [-0.0], 1, 0⟩ ∧
      (⟨.scalar (-0.0), 1, 0⟩ : Quantity Float).root 2 = .ok ⟨.scalar 0.0, 1, 0⟩ ∧
      (-0.0 : Float) ≠ 0.0) ∧
    ((⟨.array [], 1, 0⟩ : Quantity Float).root (2 ^ 1024) = .error .outOfRange ∧
      (⟨.array [], 1, 0⟩ : Quantity Float).hasOffset = false ∧
      (1 : Dimension) ^ ((2 : Int) ^ 1024) = 1) := by
  decide +kernel

end Quantities.Quantity
