import Quantities.Proofs.Unit.Name
import Quantities.Proofs.Unit.Reading

/-!
# Names that can be spelled

A unit string is cut at its blanks and at its slash, and its words at the brackets and the caret;
parentheses are refused. So a name with any of these characters in it cannot be written in a unit
string, and neither can the empty one.

* `Spellable`: a name has none of these characters, and is not empty.
* `read_of_spellable`: such a name alone is read as one term, of which it is the symbol.
* **`spellable_of_read`**, **`spellable_normalize`**: all symbols in unit strings are spellable, and
  so are the stored forms under which they are looked up.
-/

namespace Quantities

/-- The characters besides blanks that take a unit string apart, or make it malformed. -/
def delimiters : List Char := ['/', '(', ')', '[', ']', '^']

/-- A name that can stand as a symbol in a unit string. -/
structure Spellable (name : String) : Prop where
  ne_empty : name ≠ ""
  plain : ∀ c ∈ name.toList, Text.isBlank c = false ∧ c ∉ delimiters

instance (name : String) : Decidable (Spellable name) :=
  decidable_of_iff
    (name ≠ "" ∧ (name.toList.all fun c => !Text.isBlank c && !delimiters.contains c) = true)
    ⟨fun h => ⟨h.1, by simpa using h.2⟩, fun h => ⟨h.ne_empty, by simpa using h.plain⟩⟩

variable {name text : String} {cs w : List Char} {c : Char}

theorem not_mem_delimiters : c ∉ delimiters ↔
    (c ≠ '/' ∧ c ≠ '(' ∧ c ≠ ')') ∧ c ≠ '[' ∧ c ≠ ']' ∧ c ≠ '^' := by
  simp [delimiters, and_assoc]

/-- Such a character neither ends a word nor makes a unit string malformed. -/
theorem not_isBreak_of_plain (h : Text.isBlank c = false ∧ c ∉ delimiters) :
    Plan.isBreak c = false ∧ c ≠ '/' ∧ c ≠ '(' ∧ c ≠ ')' := by
  obtain ⟨hblank, hc⟩ := h
  have hplain := (not_mem_delimiters.mp hc).1
  refine ⟨?_, hplain⟩
  rw [Plan.isBreak, hblank, beq_eq_false_iff_ne.mpr hplain.1]
  rfl

/-! ## Unit strings -/

theorem Spellable.toList_ne_nil (h : Spellable name) : name.toList ≠ [] := fun hnil =>
  h.ne_empty (String.toList_eq_nil_iff.mp hnil)

/-- The rest of a symbol behind a prefix is spellable. -/
theorem Spellable.suffix {s : String} (h : Spellable name) (hne : s ≠ "")
    (hs : s.toList <:+ name.toList) : Spellable s :=
  ⟨hne, fun c hc => h.plain c (hs.subset hc)⟩

/-- The name alone has the shape of a word with nothing but a symbol. -/
theorem Spellable.shape (h : Spellable name) : Term.Shape name.toList none name.toList none where
  text := (List.append_nil _).symm
  bracket _ hcs := nomatch hcs
  ne_nil := h.toList_ne_nil
  symbol c hc := (not_mem_delimiters.mp (h.plain c hc).2).2

/-- **A spellable name is read as itself.** -/
theorem read_of_spellable (h : Spellable name) :
    Plan.read name = .ok ⟨[⟨none, name, 1⟩], none⟩ := by
  have hplain : ∀ c ∈ name.toList, Plan.isBreak c = false ∧ c ≠ '/' ∧ c ≠ '(' ∧ c ≠ ')' :=
    fun c hc => not_isBreak_of_plain (h.plain c hc)
  have hreads : Term.Reads name.toList ⟨none, name, 1⟩ :=
    ⟨none, name.toList, none, h.shape.split?, rfl, String.ofList_toList.symm, rfl⟩
  refine Plan.read_ok.mpr (.product ⟨fun c hc => (hplain c hc).2, by simp, ?_⟩)
  rw [Text.pieces_eq_singleton (fun c hc => (hplain c hc).1) h.toList_ne_nil]
  exact .cons hreads .nil

/-- The characters of a symbol are some of its word. -/
theorem spellable_of_reads {t : Term} (h : Term.Reads w t)
    (hw : ∀ c ∈ w, Text.isBlank c = false ∧ c ≠ '/' ∧ c ≠ '(' ∧ c ≠ ')') : Spellable t.symbol := by
  obtain ⟨bracket, symbol, power, hsplit, -, hsymbol, -⟩ := h
  have shape := Term.shape_of_split? hsplit
  have hlist : t.symbol.toList = symbol := by rw [hsymbol, String.toList_ofList]
  refine ⟨fun hempty => shape.ne_nil ?_, fun c hc => ?_⟩
  · rw [← hlist, hempty]
    rfl
  · rw [hlist] at hc
    have hmem : c ∈ w := by
      rw [shape.text]
      exact List.mem_append_left _ (List.mem_append_right _ hc)
    exact ⟨(hw c hmem).1, not_mem_delimiters.mpr ⟨(hw c hmem).2, shape.symbol c hc⟩⟩

theorem Plan.SectionReads.spellable {ts : List Term} {t : Term} (h : SectionReads cs ts)
    (ht : t ∈ ts) : Spellable t.symbol := by
  obtain ⟨w, hw, hreads⟩ := Outcome.exists_partner h.reads.flip ht
  refine spellable_of_reads hreads fun c hc => ?_
  obtain ⟨hmem, hbreak⟩ := Text.mem_of_mem_pieces hw hc
  exact ⟨(Bool.or_eq_false_iff.mp hbreak).1, h.plain c hmem⟩

/-- **Every symbol in a unit string is spellable.** -/
theorem spellable_of_read {p : Plan} {t : Bool × Term} (hread : Plan.read text = .ok p)
    (ht : t ∈ p.terms) : Spellable t.2.symbol := by
  have hreads := Plan.read_ok.mp hread
  generalize text.toList = cs at hreads
  cases hreads with
  | product h =>
    simp only [Plan.terms, Option.getD_none, List.map_nil, List.append_nil] at ht
    obtain ⟨s, hs, rfl⟩ := List.mem_map.mp ht
    exact h.spellable hs
  | quotient ha hb =>
    rcases List.mem_append.mp ht with ht | ht
    · obtain ⟨s, hs, rfl⟩ := List.mem_map.mp ht
      exact ha.spellable hs
    · obtain ⟨s, hs, rfl⟩ := List.mem_map.mp ht
      exact hb.spellable hs

/-! ## Stored forms -/

namespace Text.Canonical

/-- The code points of what cannot stand in a symbol. -/
def breaks : List Nat := blanks ++ delimiters.map Char.toNat

theorem mem_breaks : c.toNat ∈ breaks ↔ isBlank c = true ∨ c ∈ delimiters := by
  rw [breaks, List.mem_append, mem_blanks, List.mem_map_of_injective toNat_injective]

/-- No character becomes a blank or a delimiter that was none. -/
theorem hereditary_breaks : Hereditary fun n => n ∉ breaks :=
  hereditary_not_mem (by decide +kernel) (by decide +kernel) (by unfold IsLetter; decide +kernel)
    (by decide +kernel)

theorem composed_ne_nil (h : cs ≠ []) : composed cs ≠ [] := by
  rcases composed_cases cs with heq | heq
  · rw [heq]
    exact h
  · intro hnil
    rw [hnil] at heq
    exact composedPoints_ne_nil (by simpa using h) heq.symm

theorem not_mem_breaks_composed (h : ∀ c ∈ cs, c.toNat ∉ breaks) :
    ∀ c ∈ composed cs, c.toNat ∉ breaks := by
  rcases composed_cases cs with heq | heq
  · rw [heq]
    exact h
  · have hpoints : ∀ n ∈ cs.map Char.toNat, n ∉ breaks := List.forall_mem_map.mpr h
    have hcomposed := hereditary_breaks.composedPoints hpoints
    rw [← heq] at hcomposed
    exact fun c hc => hcomposed c.toNat (List.mem_map_of_mem hc)

end Text.Canonical

open Text.Canonical

/-- **The stored form of a spellable name is spellable.** -/
theorem spellable_normalize (h : Spellable name) : Spellable (normalize name) := by
  have hstrip : Text.strip name.toList = name.toList :=
    Text.trim_eq_self (fun c hc => (h.plain c (List.mem_of_mem_head? hc)).1)
      fun c hc => (h.plain c (List.mem_of_getLast? hc)).1
  have hbreaks : ∀ c ∈ name.toList, c.toNat ∉ breaks := fun c hc hmem =>
    (mem_breaks.mp hmem).elim (fun hb => by rw [(h.plain c hc).1] at hb; exact nomatch hb)
      (h.plain c hc).2
  have hlist : (normalize name).toList = composed name.toList := by
    rw [normalize, String.toList_ofList, hstrip]
  refine ⟨fun hempty => composed_ne_nil h.toList_ne_nil ?_, fun c hc => ?_⟩
  · rw [← hlist, hempty]
    rfl
  · rw [hlist] at hc
    have hc := not_mem_breaks_composed hbreaks c hc
    rw [mem_breaks, not_or, Bool.not_eq_true] at hc
    exact hc

end Quantities
