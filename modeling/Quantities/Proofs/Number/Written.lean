import Quantities.Proofs.Number.Digits

/-!
# The characters of written numbers

* `intText_injective`: two whole numbers are not written alike, since a sign is no digit;
* `isWritable_iff`: which whole numbers there is a text for;
* `numeric_of_mem_writeWith`: a written double consists of digits, signs, points, the letter of the
  exponent and the letters of `nan` and `inf`.
-/

namespace Quantities.Number

variable {c : Char}

/-! ## Whole numbers -/

theorem toList_natText (n : Nat) : (natText n).toList = Nat.toDigits 10 n :=
  String.toList_ofList

theorem isDigit_of_mem_intText {n : Int} (h : c ∈ (intText n).toList) : c = '-' ∨ c.isDigit := by
  cases n with
  | ofNat n =>
    rw [intText, toList_natText] at h
    exact Or.inr (isDigit_of_mem_toDigits h)
  | negSucc n =>
    rw [intText, String.toList_append, toList_natText] at h
    rcases List.mem_append.mp h with h | h
    · exact Or.inl (List.mem_singleton.mp h)
    · exact Or.inr (isDigit_of_mem_toDigits h)

theorem natText_injective : Function.Injective natText := fun m n h => by
  have hdigits : Nat.toDigits 10 m = Nat.toDigits 10 n := by
    rw [← toList_natText, h, toList_natText]
  rw [← Nat.ofDigitChars_ten_toDigits (n := m), hdigits, Nat.ofDigitChars_ten_toDigits]

theorem natText_ne_negative (m n : Nat) : natText m ≠ "-" ++ natText n := by
  intro h
  have hmem : '-' ∈ Nat.toDigits 10 m := by
    rw [← toList_natText, h]
    simp
  exact absurd rfl (ne_of_isDigit (isDigit_of_mem_toDigits hmem) (by decide))

/-- **Whole numbers are not written alike.** -/
theorem intText_injective : Function.Injective intText := fun m n h => by
  cases m <;> cases n
  · rw [natText_injective h]
  · exact absurd h (natText_ne_negative _ _)
  · exact absurd h.symm (natText_ne_negative _ _)
  · rw [Nat.succ.inj (natText_injective ((String.append_right_inj _).mp h))]

/-- **Whole numbers that can be written** are those below a power of ten. -/
theorem isWritable_iff {n : Int} : isWritable n = true ↔ n.natAbs < 10 ^ digitLimit := by
  rw [isWritable, decide_eq_true_iff, Nat.length_toDigits_le_iff (by decide) (by decide)]

/-! ## Doubles -/

/-- A character that stands in written doubles. -/
def Numeric (c : Char) : Prop := c.isDigit ∨ c ∈ "+-.aefin".toList

theorem numeric_of_subset {cs : List Char} (hcs : cs ⊆ "+-.aefin".toList) (h : c ∈ cs) :
    Numeric c :=
  Or.inr (hcs h)

/-- Any other character. -/
theorem Numeric.ne {x : Char} (h : Numeric c) (hdigit : x.toNat < 48 ∨ 57 < x.toNat)
    (hletter : x ∉ "+-.aefin".toList) : c ≠ x := by
  rcases h with h | h
  · exact ne_of_isDigit h hdigit
  · rintro rfl
    exact hletter h

theorem numeric_of_mem_replicate {n : Nat} (h : c ∈ List.replicate n '0') : Numeric c := by
  rw [List.eq_of_mem_replicate h]
  exact Or.inl (by decide)

theorem numeric_of_mem_toDigits {n : Nat} (h : c ∈ Nat.toDigits 10 n) : Numeric c :=
  Or.inl (isDigit_of_mem_toDigits h)

theorem numeric_of_mem_exponentText {e : Int} (h : c ∈ (exponentText e).toList) : Numeric c := by
  unfold exponentText at h
  rw [String.toList_append, String.toList_ofList] at h
  rcases List.mem_append.mp h with h | h
  · refine numeric_of_subset ?_ h
    split <;> decide
  · exact (List.mem_append.mp h).elim numeric_of_mem_replicate numeric_of_mem_toDigits

theorem numeric_of_mem_write {l : Layout} {d : Decimal} (hl : ∀ c ∈ l.wholeMark.toList, Numeric c)
    (h : c ∈ (l.write d).toList) : Numeric c := by
  have htake {k n : Nat} (h : c ∈ (Nat.toDigits 10 n).take k) : Numeric c :=
    numeric_of_mem_toDigits (List.mem_of_mem_take h)
  have hdrop {k n : Nat} (h : c ∈ (Nat.toDigits 10 n).drop k) : Numeric c :=
    numeric_of_mem_toDigits (List.mem_of_mem_drop h)
  have hpoint : Numeric '.' := Or.inr (by decide)
  unfold Layout.write at h
  simp only at h
  split at h
  · simp only [String.toList_append, String.toList_ofList, List.mem_append] at h
    rcases h with (h | h) | h
    · exact htake h
    · split at h
      · exact nomatch h
      · rcases List.mem_cons.mp h with rfl | h
        · exact hpoint
        · exact hdrop h
    · exact numeric_of_mem_exponentText h
  split at h
  · simp only [String.toList_ofList, List.cons_append, List.mem_cons, List.mem_append] at h
    rcases h with rfl | rfl | h | h
    · exact Or.inl (by decide)
    · exact hpoint
    · exact numeric_of_mem_replicate h
    · exact numeric_of_mem_toDigits h
  · simp only [String.toList_append, String.toList_ofList, List.mem_append] at h
    rcases h with (h | h) | h
    · exact htake h
    · exact numeric_of_mem_replicate h
    · split at h
      · exact hl c h
      · rw [String.toList_ofList] at h
        rcases List.mem_cons.mp h with rfl | h
        · exact hpoint
        · exact hdrop h

/-- **The characters of written doubles.** -/
theorem numeric_of_mem_writeWith {l : Layout} {digits : Nat → Int → Decimal} {x : Float}
    (hl : ∀ c ∈ l.wholeMark.toList, Numeric c) (h : c ∈ (writeWith l digits x).toList) :
    Numeric c := by
  unfold writeWith at h
  split at h
  · exact numeric_of_subset (by decide) h
  simp only [String.toList_append, List.mem_append] at h
  rcases h with h | h
  · refine numeric_of_subset ?_ h
    split <;> decide
  split at h
  · exact numeric_of_subset (by decide) h
  split at h
  · rw [String.toList_append] at h
    rcases List.mem_append.mp h with h | h
    · rw [List.mem_singleton.mp h]
      exact Or.inl (by decide)
    · exact hl c h
  · exact numeric_of_mem_write hl h

theorem numeric_of_mem_briefText {x : Float} (h : c ∈ (briefText x).toList) : Numeric c :=
  numeric_of_mem_writeWith (fun _ hc => absurd hc List.not_mem_nil) h

end Quantities.Number
