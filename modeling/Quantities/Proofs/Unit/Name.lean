import Mathlib.Data.List.DropRight
import Quantities.Proofs.Text.Canonical.Ends
import Quantities.Unit.Name

/-!
# The stored form of a symbol

A symbol is stored without blanks around it and in normal form C. Neither of the two changes its own
results, and the second does not undo the first: a stripped text has no blanks at its ends, and
normal form C puts none there.

* **`normalize_normalize`**: the stored form of a stored form is itself.
-/

namespace Quantities.Text

/-! ## Trimmed text -/

variable {p : Char → Bool} {c : Char} {cs : List Char}

theorem trim_eq (p : Char → Bool) (cs : List Char) : trim p cs = (cs.dropWhile p).rdropWhile p :=
  rfl

theorem head?_dropWhile (h : c ∈ (cs.dropWhile p).head?) : p c = false := by
  have hhead := List.head?_dropWhile_not p cs
  rw [Option.mem_def.mp h] at hhead
  exact hhead

theorem head?_trim (h : c ∈ (trim p cs).head?) : p c = false := by
  obtain ⟨ds, hds⟩ := List.rdropWhile_prefix p (cs.dropWhile p)
  have hc : c ∈ (cs.dropWhile p).head? := hds ▸ List.mem_head?_append_of_mem_head? h
  exact head?_dropWhile hc

theorem getLast?_trim (h : c ∈ (trim p cs).getLast?) : p c = false := by
  have hne : trim p cs ≠ [] := List.ne_nil_of_mem (List.mem_of_getLast? h)
  rw [List.getLast?_eq_some_getLast hne] at h
  obtain rfl := Option.some.inj h
  exact Bool.not_eq_true _ ▸ List.rdropWhile_last_not p (cs.dropWhile p) hne

/-- Text without characters of the class at its ends stays as it is. -/
theorem trim_eq_self (hfirst : ∀ c ∈ cs.head?, p c = false)
    (hlast : ∀ c ∈ cs.getLast?, p c = false) : trim p cs = cs := by
  have hdrop : cs.dropWhile p = cs := by
    cases cs with
    | nil => rfl
    | cons c cs => rw [List.dropWhile_cons_of_neg (by simp [hfirst c rfl])]
  rw [trim_eq, hdrop, List.rdropWhile_eq_self_iff]
  intro hne
  simp [hlast _ (List.getLast?_eq_some_getLast hne)]

theorem strip_strip (cs : List Char) : strip (strip cs) = strip cs :=
  trim_eq_self (fun _ => head?_trim) fun _ => getLast?_trim

/-! ## Normal form C of text -/

namespace Canonical

theorem toNat_ofNat {n : Nat} (h : n.isValidChar) : (Char.ofNat n).toNat = n := by
  rw [Char.ofNat, dif_pos h]
  rfl

/-- The code points of a text in normal form C, if it is not one that stays as it is. -/
theorem composed_cases (cs : List Char) :
    composed cs = cs ∨ (composed cs).map Char.toNat = composedPoints (cs.map Char.toNat) := by
  unfold composed
  split
  · exact Or.inl rfl
  · refine Or.inr ?_
    have hvalid : ∀ n ∈ cs.map Char.toNat, n.isValidChar := by
      intro n hn
      obtain ⟨c, -, rfl⟩ := List.mem_map.mp hn
      exact c.valid
    have hpoints := hereditary_isValidChar.composedPoints hvalid
    have hid : ∀ n ∈ composedPoints (cs.map Char.toNat), (Char.ofNat n).toNat = n :=
      fun n hn => toNat_ofNat (hpoints n hn)
    rw [List.map_map]
    exact (List.map_congr_left hid).trans (List.map_id' _)

theorem toNat_injective : Function.Injective Char.toNat := fun _ _ => Char.toNat_inj.mp

theorem composed_composed (cs : List Char) : composed (composed cs) = composed cs := by
  rcases composed_cases (composed cs) with h | h
  · exact h
  rcases composed_cases cs with h' | h'
  · rw [h', h']
  · rw [h', composedPoints_composedPoints, ← h'] at h
    exact toNat_injective.list_map h

/-- Normal form C leaves no blank at the ends of a stripped text. -/
theorem strip_composed_strip (cs : List Char) :
    strip (composed (strip cs)) = composed (strip cs) := by
  rcases composed_cases (strip cs) with h | h
  · rw [h, strip_strip]
  have hends : Ends Ink ((strip cs).map Char.toNat) := by
    refine ⟨fun n hn => ?_, fun n hn => ?_⟩
    · rw [List.head?_map] at hn
      obtain ⟨c, hc, rfl⟩ := Option.map_eq_some_iff.mp hn
      exact ink_iff.mpr (head?_trim hc)
    · rw [List.getLast?_map] at hn
      obtain ⟨c, hc, rfl⟩ := Option.map_eq_some_iff.mp hn
      exact ink_iff.mpr (getLast?_trim hc)
  have hends := hends.composedPoints hereditary_ink fun _ => ink_of_combiningClass
  rw [← h] at hends
  refine trim_eq_self (fun c hc => ?_) fun c hc => ?_
  · refine ink_iff.mp (hends.first _ ?_)
    rw [List.head?_map, Option.mem_def.mp hc]
    rfl
  · refine ink_iff.mp (hends.last _ ?_)
    rw [List.getLast?_map, Option.mem_def.mp hc]
    rfl

end Canonical

end Quantities.Text

namespace Quantities

/-- **The stored form of a stored form is itself.** -/
theorem normalize_normalize (s : String) : normalize (normalize s) = normalize s := by
  unfold normalize
  rw [String.toList_ofList, Text.Canonical.strip_composed_strip, Text.Canonical.composed_composed]

theorem Name.normalized_normalized (n : Name) : n.normalized.normalized = n.normalized := by
  cases n with
  | text s => exact congrArg Name.text (normalize_normalize s)
  | void v => rfl

end Quantities
