import Mathlib.Data.List.DropRight
import Mathlib.Data.List.TakeWhile
import Quantities.Text.Blank

/-!
# Cutting text into pieces

`pieces p` cuts a text at the characters of a class `p` and leaves out what is empty; words are the
pieces between blanks. The text behind the last such character is its `tail`, which is empty exactly
when the text is, or ends in such a character.

* `append_cons_inj` and `append_cons_inj_last`: the first character of the class, or the last one,
  tells where a text is cut;
* `pieces_append_cons`: a character of the class cuts a text in two;
* `pieces_append`: text without such characters, put behind another text, makes the tail longer and
  leaves the pieces before it as they are. Where the tail is empty, it becomes a piece of its own.
-/

namespace Quantities.Text

/-- The runs of characters between those of a class, none of them empty. -/
def pieces (p : Char → Bool) (cs : List Char) : List (List Char) :=
  (cs.splitOnP p).filter fun w => !w.isEmpty

/-- The text behind the last character of a class. -/
def tail (p : Char → Bool) (cs : List Char) : List Char := cs.rtakeWhile fun c => !p c

theorem words_eq_pieces (cs : List Char) : words cs = pieces isBlank cs := rfl

variable {p : Char → Bool} {a a' b b' cs w : List Char} {c c' : Char}

/-! ## The first cut -/

/-- A text whose first part is of a class, and whose second part does not begin with one of it, is
cut between the two. -/
theorem takeWhile_dropWhile_append (ha : ∀ c ∈ a, p c = true) (hb : ∀ c ∈ b.head?, p c = false) :
    (a ++ b).takeWhile p = a ∧ (a ++ b).dropWhile p = b := by
  rw [List.takeWhile_append_of_pos ha, List.dropWhile_append_of_pos ha]
  cases b with
  | nil => exact ⟨List.append_nil a, rfl⟩
  | cons c b =>
    have hc : p c = false := hb c rfl
    rw [List.takeWhile_cons_of_neg (by simp [hc]), List.dropWhile_cons_of_neg (by simp [hc])]
    exact ⟨List.append_nil a, rfl⟩

/-- **The first cut is unique.** -/
theorem append_cons_inj (ha : ∀ x ∈ a, p x = false) (ha' : ∀ x ∈ a', p x = false)
    (hc : p c = true) (hc' : p c' = true) :
    a ++ c :: b = a' ++ c' :: b' ↔ a = a' ∧ c = c' ∧ b = b' := by
  constructor
  · intro h
    obtain ⟨htake, hdrop⟩ := takeWhile_dropWhile_append (p := fun x => !p x) (a := a)
      (b := c :: b) (by simpa using ha) (by simpa using hc)
    obtain ⟨htake', hdrop'⟩ := takeWhile_dropWhile_append (p := fun x => !p x) (a := a')
      (b := c' :: b') (by simpa using ha') (by simpa using hc')
    rw [h] at htake hdrop
    exact ⟨htake.symm.trans htake', List.cons.inj (hdrop.symm.trans hdrop')⟩
  · rintro ⟨rfl, rfl, rfl⟩
    rfl

/-- **The last cut is unique.** -/
theorem append_cons_inj_last (hb : ∀ x ∈ b, p x = false) (hb' : ∀ x ∈ b', p x = false)
    (hc : p c = true) (hc' : p c' = true) :
    a ++ c :: b = a' ++ c' :: b' ↔ a = a' ∧ c = c' ∧ b = b' := by
  rw [← List.reverse_inj]
  simp only [List.reverse_append, List.reverse_cons, List.append_assoc, List.singleton_append]
  rw [append_cons_inj (by simpa using hb) (by simpa using hb') hc hc', List.reverse_inj,
    List.reverse_inj]
  constructor
  · rintro ⟨hb, hc, ha⟩
    exact ⟨ha, hc, hb⟩
  · rintro ⟨ha, hc, hb⟩
    exact ⟨hb, hc, ha⟩

theorem mem_of_mem_intercalate {sep : List Char} : ∀ {ws : List (List Char)},
    c ∈ sep.intercalate ws → c ∈ sep ∨ ∃ w ∈ ws, c ∈ w
  | [], h => by
    rw [List.intercalate_nil] at h
    exact nomatch h
  | [w], h => by
    rw [List.intercalate_singleton] at h
    exact Or.inr ⟨w, List.mem_cons_self, h⟩
  | w :: v :: ws, h => by
    rw [List.intercalate_cons_cons, List.append_assoc] at h
    rcases List.mem_append.mp h with h | h
    · exact Or.inr ⟨w, List.mem_cons_self, h⟩
    rcases List.mem_append.mp h with h | h
    · exact Or.inl h
    · obtain h | ⟨u, hu, hc⟩ := mem_of_mem_intercalate h
      · exact Or.inl h
      · exact Or.inr ⟨u, List.mem_cons_of_mem w hu, hc⟩

/-! ## Pieces -/

theorem pieces_append_cons (hc : p c = true) :
    pieces p (a ++ c :: b) = pieces p a ++ pieces p b := by
  unfold pieces
  rw [List.splitOnP_append_cons a b hc, List.filter_append]

/-- Text without a character of the class is one piece. -/
theorem pieces_eq_singleton (hw : ∀ c ∈ w, p c = false) (hne : w ≠ []) : pieces p w = [w] := by
  unfold pieces
  rw [List.splitOnP_eq_singleton hw, List.filter_cons_of_pos (by simpa using hne)]
  rfl

theorem pieces_nil (p : Char → Bool) : pieces p [] = [] := rfl

/-- Text of such characters only has no pieces. -/
theorem pieces_eq_nil : ∀ {cs : List Char}, (∀ c ∈ cs, p c = true) → pieces p cs = []
  | [], _ => rfl
  | c :: cs, h => by
    have hc := pieces_append_cons (a := []) (b := cs) (h c List.mem_cons_self)
    rw [List.nil_append, pieces_nil, List.nil_append] at hc
    rw [hc]
    exact pieces_eq_nil fun x hx => h x (List.mem_cons_of_mem c hx)

theorem mem_of_mem_splitOnP :
    ∀ {cs w : List Char}, w ∈ cs.splitOnP p → c ∈ w → c ∈ cs ∧ p c = false
  | [], w, hw, hc => by
    rw [List.splitOnP_nil, List.mem_singleton] at hw
    exact nomatch hw ▸ hc
  | x :: cs, w, hw, hc => by
    rw [List.splitOnP_cons_eq_if_modifyHead] at hw
    split at hw
    · rcases List.mem_cons.mp hw with rfl | hw
      · exact nomatch hc
      · exact (mem_of_mem_splitOnP hw hc).imp_left (List.mem_cons_of_mem x)
    rename_i hx
    obtain ⟨v, vs, hvs⟩ := List.exists_cons_of_ne_nil (List.splitOnP_ne_nil p cs)
    rw [hvs, List.modifyHead_cons] at hw
    have hrest : ∀ u ∈ cs.splitOnP p, c ∈ u → c ∈ x :: cs ∧ p c = false := fun u hu hcu =>
      (mem_of_mem_splitOnP hu hcu).imp_left (List.mem_cons_of_mem x)
    rcases List.mem_cons.mp hw with rfl | hw
    · rcases List.mem_cons.mp hc with rfl | hc
      · exact ⟨List.mem_cons_self, by simpa using hx⟩
      · exact hrest v (hvs ▸ List.mem_cons_self) hc
    · exact hrest w (hvs ▸ List.mem_cons_of_mem v hw) hc

/-- A piece consists of characters of the text that are not of the class. -/
theorem mem_of_mem_pieces (hw : w ∈ pieces p cs) (hc : c ∈ w) : c ∈ cs ∧ p c = false :=
  mem_of_mem_splitOnP (List.mem_of_mem_filter hw) hc

theorem splitOnP_congr {q : Char → Bool} :
    ∀ {cs : List Char}, (∀ c ∈ cs, p c = q c) → cs.splitOnP p = cs.splitOnP q
  | [], _ => rfl
  | c :: cs, h => by
    have ih := splitOnP_congr fun x hx => h x (List.mem_cons_of_mem c hx)
    rw [List.splitOnP_cons_eq_if_modifyHead, List.splitOnP_cons_eq_if_modifyHead,
      h c List.mem_cons_self, ih]

/-- Two classes that agree on a text cut it alike. -/
theorem pieces_congr {q : Char → Bool} (h : ∀ c ∈ cs, p c = q c) : pieces p cs = pieces q cs := by
  unfold pieces
  rw [splitOnP_congr h]

/-! ## The tail -/

theorem not_mem_tail (h : c ∈ tail p cs) : p c = false := by
  simpa using List.mem_rtakeWhile_imp h

/-- A text that is empty or ends in a character of the class has no tail. -/
theorem tail_eq_nil (h : ∀ c ∈ cs.getLast?, p c = true) : tail p cs = [] := by
  rw [tail, List.rtakeWhile_eq_nil_iff]
  intro hne
  rw [h _ (List.getLast?_eq_getLast_of_ne_nil hne)]
  decide

/-- A character of the class cuts off the tail. -/
theorem tail_append_cons (hc : p c = true) : tail p (a ++ c :: b) = tail p b := by
  unfold tail List.rtakeWhile
  rw [List.reverse_append, List.reverse_cons, List.append_assoc, List.takeWhile_append]
  split
  · rename_i h
    have hall := (List.takeWhile_prefix fun c => !p c).eq_of_length h
    simp [hc, hall]
  · rfl

/-- What stands before the tail is nothing, or ends in a character of the class. -/
theorem eq_append_tail (p : Char → Bool) (cs : List Char) :
    cs = tail p cs ∨ ∃ a c, p c = true ∧ cs = a ++ c :: tail p cs := by
  have h : (cs.rdropWhile fun c => !p c) ++ tail p cs = cs := List.rdropWhile_append_rtakeWhile
  rcases List.eq_nil_or_concat (cs.rdropWhile fun c => !p c) with hnil | ⟨a, c, hc⟩
  · rw [hnil, List.nil_append] at h
    exact Or.inl h.symm
  · refine Or.inr ⟨a, c, ?_, ?_⟩
    · have hne : (cs.rdropWhile fun c => !p c) ≠ [] := by rw [hc]; simp
      have := List.rdropWhile_last_not _ _ hne
      simpa [hc] using this
    · rw [hc] at h
      simpa using h.symm

/-- **Text behind a text.** Text without a character of the class makes the tail longer. -/
theorem pieces_append (cs : List Char) (hw : ∀ c ∈ w, p c = false) (hne : w ≠ []) :
    ∃ before, pieces p cs = before ++ (if tail p cs = [] then [] else [tail p cs]) ∧
      pieces p (cs ++ w) = before ++ [tail p cs ++ w] := by
  have htail : pieces p (tail p cs) = if tail p cs = [] then [] else [tail p cs] := by
    split
    · rename_i h; rw [h]; rfl
    · rename_i h; exact pieces_eq_singleton (fun c hc => not_mem_tail hc) h
  have hall : ∀ c ∈ tail p cs ++ w, p c = false := fun c hc =>
    (List.mem_append.mp hc).elim not_mem_tail (hw c)
  have hne' : tail p cs ++ w ≠ [] := by simp [hne]
  rcases eq_append_tail p cs with h | ⟨a, c, hc, h⟩
  · refine ⟨[], ?_, ?_⟩
    · rw [List.nil_append, ← htail, ← h]
    · rw [List.nil_append, ← pieces_eq_singleton hall hne', ← h]
  · refine ⟨pieces p a, ?_, ?_⟩
    · rw [← htail, ← pieces_append_cons hc, ← h]
    · rw [← pieces_eq_singleton hall hne', ← pieces_append_cons hc, ← List.cons_append,
        ← List.append_assoc, ← h]

end Quantities.Text
