import Quantities.Proofs.Text.Words
import Quantities.Unit.Expression

/-!
# The shape of a word

A word of a unit string is put together from an optional prefix in brackets, a symbol, and an
optional text behind a caret. `Shape` says so without taking the word apart, and `split?_eq_some`
says that taking it apart finds exactly that: a word has one shape at most.
-/

namespace Quantities.Term

/-- The text of a prefix in its brackets, if there are any. -/
def bracketText : Option (List Char) → List Char
  | none => []
  | some cs => '[' :: (cs ++ [']'])

/-- The text of a power behind its caret, if there is one. -/
def powerText : Option (List Char) → List Char
  | none => []
  | some cs => '^' :: cs

/-- A word is put together from a prefix, a symbol and the text behind a caret. -/
structure Shape (word : List Char) (bracket : Option (List Char)) (symbol : List Char)
    (power : Option (List Char)) : Prop where
  text : word = bracketText bracket ++ symbol ++ powerText power
  bracket : ∀ cs, bracket = some cs → ∀ c ∈ cs, c ≠ '[' ∧ c ≠ ']'
  ne_nil : symbol ≠ []
  symbol : ∀ c ∈ symbol, c ≠ '[' ∧ c ≠ ']' ∧ c ≠ '^'

variable {word cs rest symbol : List Char} {bracket power : Option (List Char)}

theorem isBracket_eq_false {c : Char} : isBracket c = false ↔ c ≠ '[' ∧ c ≠ ']' := by
  simp [isBracket]

theorem isSymbolic_iff {c : Char} : isSymbolic c = true ↔ c ≠ '[' ∧ c ≠ ']' ∧ c ≠ '^' := by
  simp [isSymbolic, isBracket, and_assoc]

theorem splitBracket?_some (h : splitBracket? cs = some (bracket, rest)) :
    cs = bracketText bracket ++ rest ∧ ∀ p, bracket = some p → ∀ c ∈ p, c ≠ '[' ∧ c ≠ ']' := by
  unfold splitBracket? at h
  split at h
  · rename_i cs
    split at h
    · rename_i rest' hdrop
      simp only [Option.some.injEq, Prod.mk.injEq] at h
      obtain ⟨rfl, rfl⟩ := h
      constructor
      · rw [bracketText, List.cons_append, List.append_assoc, List.singleton_append, ← hdrop,
          List.takeWhile_append_dropWhile]
      · rintro p hp c hc
        obtain rfl := Option.some.inj hp
        exact isBracket_eq_false.mp (by simpa using List.mem_takeWhile_imp hc)
    · exact nomatch h
  · simp only [Option.some.injEq, Prod.mk.injEq] at h
    obtain ⟨rfl, rfl⟩ := h
    exact ⟨rfl, fun _ hp => nomatch hp⟩

theorem splitBracket?_append
    (hbracket : ∀ p, bracket = some p → ∀ c ∈ p, c ≠ '[' ∧ c ≠ ']')
    (hrest : rest.head? ≠ some '[') :
    splitBracket? (bracketText bracket ++ rest) = some (bracket, rest) := by
  cases bracket with
  | none =>
    unfold splitBracket?
    split
    · rename_i h
      exact absurd (congrArg List.head? h) hrest
    · rfl
  | some p =>
    obtain ⟨htake, hdrop⟩ := Text.takeWhile_dropWhile_append (p := fun c => !isBracket c) (a := p)
      (b := ']' :: rest) (fun c hc => by simpa using isBracket_eq_false.mpr (hbracket p rfl c hc))
      (by simp [isBracket])
    rw [bracketText, List.cons_append, List.append_assoc, List.singleton_append, splitBracket?,
      hdrop, htake]
    rfl

theorem shape_of_split? (h : split? word = some (bracket, symbol, power)) :
    Shape word bracket symbol power := by
  unfold split? at h
  split at h
  · exact nomatch h
  rename_i bracket' rest hbracket
  obtain ⟨rfl, hplain⟩ := splitBracket?_some hbracket
  simp only at h
  split at h
  · exact nomatch h
  rename_i hne
  have hparts : bracket' = bracket ∧ rest.takeWhile isSymbolic = symbol ∧
      rest.dropWhile isSymbolic = powerText power := by
    split at h
    · rename_i hdrop
      simp only [Option.some.injEq, Prod.mk.injEq] at h
      obtain ⟨rfl, rfl, rfl⟩ := h
      exact ⟨rfl, rfl, hdrop⟩
    · rename_i cs hdrop
      simp only [Option.some.injEq, Prod.mk.injEq] at h
      obtain ⟨rfl, rfl, rfl⟩ := h
      exact ⟨rfl, rfl, hdrop⟩
    · exact nomatch h
  obtain ⟨rfl, rfl, hdrop⟩ := hparts
  refine ⟨?_, hplain, by simpa using hne, fun c hc => ?_⟩
  · rw [List.append_assoc, ← hdrop, List.takeWhile_append_dropWhile]
  · exact isSymbolic_iff.mp (List.mem_takeWhile_imp hc)

theorem Shape.split? (h : Shape word bracket symbol power) :
    split? word = some (bracket, symbol, power) := by
  obtain ⟨rfl, hplain, hne, hsymbol⟩ := h
  obtain ⟨c, symbol', rfl⟩ := List.exists_cons_of_ne_nil hne
  obtain ⟨htake, hdrop⟩ := Text.takeWhile_dropWhile_append (p := isSymbolic) (a := c :: symbol')
    (b := powerText power) (fun c hc => isSymbolic_iff.mpr (hsymbol c hc))
    (by cases power <;> simp [powerText, isSymbolic])
  have hopen : c ≠ '[' := (hsymbol c List.mem_cons_self).1
  unfold Term.split?
  rw [List.append_assoc, splitBracket?_append hplain (by simpa using hopen)]
  simp only [htake, hdrop]
  cases power <;> rfl

/-- **A word has one shape at most**, the one that is found. -/
theorem split?_eq_some : split? word = some (bracket, symbol, power) ↔
    Shape word bracket symbol power :=
  ⟨shape_of_split?, Shape.split?⟩

end Quantities.Term
