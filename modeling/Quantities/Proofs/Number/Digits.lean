import Mathlib.Data.List.Forall2
import Mathlib.Data.Nat.Digits.Defs
import Quantities.Number.Numeral
import Quantities.Number.Written

/-!
# Written whole numbers are read back

* `readWhole?_toDigits`: the digits of a number denote that number, without a sign;
* `readWhole?_eq_none`: a text with a character in it that is no digit, other than a sign at the
  start, denotes no number;
* `Whole` is the grammar of whole numbers, an optional sign and some digits, and `readWhole?_iff`
  says that this is what is read.
-/

namespace Quantities.Number

open Quantities.Text

theorem toNat_of_isDigit {c : Char} (h : c.isDigit) : 48 ≤ c.toNat ∧ c.toNat ≤ 57 := by
  simp only [Char.isDigit, Bool.and_eq_true, decide_eq_true_eq, ge_iff_le, UInt32.le_iff_toNat_le]
    at h
  exact h

/-- Two characters that a code point tells apart. -/
theorem ne_of_isDigit {c x : Char} (h : c.isDigit) (hx : x.toNat < 48 ∨ 57 < x.toNat) : c ≠ x := by
  rintro rfl
  have := toNat_of_isDigit h
  omega

theorem digitValue?_of_isDigit {c : Char} (h : c.isDigit) :
    digitValue? c = some (c.toNat - '0'.toNat) := by
  obtain ⟨hlow, hhigh⟩ := toNat_of_isDigit h
  unfold digitValue? zeros
  rw [List.find?_cons_of_pos (by simp; omega)]
  rfl

/-- The reading of more digits, from the number that those before them denote. -/
theorem foldl_digitValue? :
    ∀ {cs : List Char} (n : Nat), (∀ c ∈ cs, c.isDigit) →
      cs.foldl (fun acc c => acc.bind fun n => (digitValue? c).map fun d => 10 * n + d) (some n) =
        some (Nat.ofDigitChars 10 cs n)
  | [], n, _ => by rw [List.foldl_nil, Nat.ofDigitChars_nil]
  | c :: cs, n, h => by
    rw [List.foldl_cons, Nat.ofDigitChars_cons, ← foldl_digitValue? _ fun x hx =>
      h x (List.mem_cons_of_mem c hx), digitValue?_of_isDigit (h c List.mem_cons_self)]
    rfl

theorem isDigit_of_mem_toDigits {n : Nat} {c : Char} (h : c ∈ Nat.toDigits 10 n) : c.isDigit :=
  Nat.isDigit_of_mem_toDigits (by decide) (by decide) h

theorem signOf_toDigits (n : Nat) : signOf (Nat.toDigits 10 n) = (false, Nat.toDigits 10 n) := by
  unfold signOf
  split
  · rename_i h
    exact absurd rfl (ne_of_isDigit (isDigit_of_mem_toDigits (h ▸ List.mem_cons_self)) (by decide))
  · rename_i h
    exact absurd rfl (ne_of_isDigit (isDigit_of_mem_toDigits (h ▸ List.mem_cons_self)) (by decide))
  · rfl

/-- **Written numbers are read back.** -/
theorem readWhole?_toDigits (n : Nat) : readWhole? (Nat.toDigits 10 n) = some (n : Int) := by
  have hvalue : numeralValue? (Nat.toDigits 10 n) = some n := by
    unfold numeralValue?
    rw [foldl_digitValue? 0 fun c hc => isDigit_of_mem_toDigits hc, Nat.ofDigitChars_ten_toDigits]
  unfold readWhole?
  rw [signOf_toDigits]
  simp only [List.isEmpty_iff, Nat.toDigits_ne_nil, if_false, hvalue]
  rfl

/-- After a character that is no digit nothing more is read. -/
theorem foldl_none (cs : List Char) :
    cs.foldl (fun acc c => acc.bind fun n => (digitValue? c).map fun d => 10 * n + d) none =
      none := by
  induction cs with
  | nil => rfl
  | cons c cs ih => exact ih

theorem foldl_eq_none {c : Char} (hc : digitValue? c = none) :
    ∀ {cs : List Char} (acc : Option Nat), c ∈ cs →
      cs.foldl (fun acc c => acc.bind fun n => (digitValue? c).map fun d => 10 * n + d) acc = none
  | [], _, h => absurd h (by simp)
  | x :: cs, acc, h => by
    rw [List.foldl_cons]
    rcases List.mem_cons.mp h with rfl | h
    · cases acc <;> simp only [Option.bind_none, Option.bind_some, hc, Option.map_none, foldl_none]
    · exact foldl_eq_none hc _ h

theorem readWhole?_eq_none {c : Char} {cs : List Char} (hc : digitValue? c = none)
    (hsign : c ≠ '+' ∧ c ≠ '-') (h : c ∈ cs) : readWhole? cs = none := by
  have hmem : c ∈ (signOf cs).2 := by
    unfold signOf
    split
    · exact (List.mem_cons.mp h).resolve_left hsign.1
    · exact (List.mem_cons.mp h).resolve_left hsign.2
    · exact h
  unfold readWhole? numeralValue?
  simp only
  split
  · rfl
  · rw [foldl_eq_none hc _ hmem]
    rfl

/-! ## The grammar of whole numbers -/

theorem foldl_eq_some {n : Nat} : ∀ {cs : List Char} (m : Nat),
    cs.foldl (fun acc c => acc.bind fun n => (digitValue? c).map fun d => 10 * n + d) (some m) =
        some n ↔
      ∃ vs, List.Forall₂ (fun c v => digitValue? c = some v) cs vs ∧
        n = vs.foldl (fun n v => 10 * n + v) m
  | [], m => by
    rw [List.foldl_nil, Option.some_inj]
    constructor
    · rintro rfl
      exact ⟨[], .nil, rfl⟩
    · rintro ⟨vs, hvs, rfl⟩
      rw [List.forall₂_nil_left_iff.mp hvs, List.foldl_nil]
  | c :: cs, m => by
    rw [List.foldl_cons, Option.bind_some]
    cases hc : digitValue? c with
    | none =>
      rw [Option.map_none, foldl_none]
      constructor
      · intro h
        exact nomatch h
      · rintro ⟨vs, hvs, -⟩
        obtain ⟨v, _, hv, -, -⟩ := List.forall₂_cons_left_iff.mp hvs
        rw [hc] at hv
        exact nomatch hv
    | some v =>
      rw [Option.map_some, foldl_eq_some]
      constructor
      · rintro ⟨vs, hvs, hn⟩
        exact ⟨v :: vs, .cons hc hvs, hn⟩
      · rintro ⟨_, hall, hn⟩
        obtain ⟨v', vs, hv, hvs, rfl⟩ := List.forall₂_cons_left_iff.mp hall
        obtain rfl := Option.some.inj (hc.symm.trans hv)
        exact ⟨vs, hvs, hn⟩

/-- At least one decimal digit, of any script, and the number that they spell. -/
structure Digits (cs : List Char) (n : Nat) : Prop where
  ne_nil : cs ≠ []
  spell : ∃ vs, List.Forall₂ (fun c v => digitValue? c = some v) cs vs ∧
    n = Nat.ofDigits 10 vs.reverse

theorem numeralValue?_eq_some {cs : List Char} {n : Nat} : numeralValue? cs = some n ↔
    ∃ vs, List.Forall₂ (fun c v => digitValue? c = some v) cs vs ∧
      n = Nat.ofDigits 10 vs.reverse := by
  have hfold : ∀ vs : List Nat,
      vs.foldl (fun n v => 10 * n + v) 0 = Nat.ofDigits 10 vs.reverse := fun vs => by
    rw [Nat.ofDigits_eq_foldr, List.foldr_reverse]
    simp only [Nat.cast_id, add_comm]
  unfold numeralValue?
  rw [foldl_eq_some]
  simp only [hfold]

/-- A whole number as it may be written: an optional sign, and the digits `ds`. -/
inductive Whole : List Char → List Char → Int → Prop
  | bare {ds : List Char} {n : Nat} (h : Digits ds n) : Whole ds ds n
  | plus {ds : List Char} {n : Nat} (h : Digits ds n) : Whole ('+' :: ds) ds n
  | minus {ds : List Char} {n : Nat} (h : Digits ds n) : Whole ('-' :: ds) ds (-n)

/-- No digits begin with a sign. -/
theorem Digits.signOf {ds : List Char} {n : Nat} (h : Digits ds n) :
    signOf ds = (false, ds) := by
  obtain ⟨-, vs, hvs, -⟩ := h
  unfold Number.signOf
  split
  · obtain ⟨v, _, hv, -⟩ := List.forall₂_cons_left_iff.mp hvs
    exact nomatch hv
  · obtain ⟨v, _, hv, -⟩ := List.forall₂_cons_left_iff.mp hvs
    exact nomatch hv
  · rfl

theorem readWhole?_eq_some {cs : List Char} {n : Int} : readWhole? cs = some n ↔
    ∃ v, Digits (signOf cs).2 v ∧ (if (signOf cs).1 then -(v : Int) else v) = n := by
  unfold readWhole?
  simp only
  split
  · rename_i hnil
    constructor
    · intro h
      exact nomatch h
    · rintro ⟨v, hv, -⟩
      exact absurd (List.isEmpty_iff.mp hnil) hv.ne_nil
  · rename_i hne
    simp only [Option.map_eq_some_iff, Option.bind_eq_bind, Option.bind_eq_some_iff,
      Option.pure_def, Option.some_inj, numeralValue?_eq_some]
    constructor
    · rintro ⟨_, ⟨v, hv, rfl⟩, hn⟩
      exact ⟨v, ⟨by simpa using hne, hv⟩, hn⟩
    · rintro ⟨v, hv, hn⟩
      exact ⟨v, ⟨v, hv.spell, rfl⟩, hn⟩

/-- **What is read as a whole number.** -/
theorem readWhole?_iff {cs ds : List Char} {n : Int} :
    readWhole? cs = some n ∧ (signOf cs).2 = ds ↔ Whole cs ds n := by
  rw [readWhole?_eq_some]
  constructor
  · rintro ⟨⟨v, hv, rfl⟩, rfl⟩
    unfold signOf at hv ⊢
    split at hv
    · exact .plus hv
    · exact .minus hv
    · exact .bare hv
  · intro h
    cases h with
    | bare h =>
      rw [h.signOf]
      exact ⟨⟨_, h, rfl⟩, rfl⟩
    | plus h => exact ⟨⟨_, h, rfl⟩, rfl⟩
    | minus h => exact ⟨⟨_, h, rfl⟩, rfl⟩

end Quantities.Number
