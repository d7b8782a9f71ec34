import Quantities.Proofs.BestFit.Fit

/-!
# Units with an offset in a best fit

A unit with an offset stands only for itself: alone, in front of no slash and with no power. So it
may be the whole text of a best fit, but it never stands below a slash, whatever its power is.

* `word_termText`: a single term is found again in its text with a power, by its bracket and symbol.
* `Factors.congr`: nothing else of a term matters for the unit that it names.
* **`hasOffset_of_parse`**: in a text of powers that stands for something, the units below the slash
  have no offset.
-/

namespace Quantities.Registry

open BestFit
open Text (pieces)

variable {α : Type} [Scalar α] {reg : Registry α} {t t' : Term} {unit : String}
  {powers : List (String × Int)} {c : String × Int}

/-- Terms with one bracket and one symbol name the same unit. -/
theorem Factors.congr {factor : α} {e : UnitEntry α} (h : reg.Factors t')
    (hb : t'.bracket = t.bracket) (hs : t'.symbol = t.symbol) (hknows : reg.Knows t factor e) :
    e.hasOffset = false := by
  obtain ⟨factor', e', ⟨hresolve, -⟩, ho, -⟩ := h
  have hsame : reg.resolve "" t' = reg.resolve "" t := by
    unfold resolve
    rw [hb, hs]
  have hunit := (hresolve "").symm.trans (hsame.trans (hknows.resolve ""))
  obtain ⟨-, rfl⟩ := Prod.mk.inj (Except.ok.inj hunit)
  exact ho

/-- The word of a single term in its text with a power. -/
theorem word_termText (hread : Plan.read unit = .ok ⟨[t], none⟩) (n : Nat)
    (hw : ∀ w ∈ pieces Plan.isBreak (termText unit n).toList, ∃ t', Term.Reads w t') :
    ∃ w ∈ pieces Plan.isBreak (termText unit n).toList,
      ∀ t', Term.Reads w t' → t'.bracket = t.bracket ∧ t'.symbol = t.symbol := by
  have hreads := Plan.read_ok.mp hread
  rw [toList_termText] at hw ⊢
  split
  · obtain ⟨w, hw'⟩ := hreads.exists_word
    obtain ⟨s, hs, hword⟩ := hreads.word hw'
    obtain rfl : s = (false, t) := by simpa [Plan.terms] using hs
    refine ⟨w, hw', fun t' ht' => ?_⟩
    rw [ht'.unique hword]
    exact ⟨rfl, rfl⟩
  · rename_i hn
    rw [if_neg hn] at hw
    exact hreads.word_raise hw fun c hc => Plan.not_isBreak_of_mem (List.mem_cons_of_mem _ hc)

variable [Scalar.Grounded α]

/-- **No unit with an offset stands below a slash.** Where the text of powers stands for something,
the units with powers below zero have no offset. -/
theorem hasOffset_of_parse {u v : Quantity α} (h0 : ∀ c ∈ powers, c.2 ≠ 0)
    (hparse : reg.parse (renderPowers powers) = .ok u) (hc : c ∈ powers) (hneg : c.2 < 0)
    (hv : reg.parse c.1 = .ok v) : v.hasOffset = false := by
  rcases parse_cases hv with ⟨-, rfl⟩ | ⟨p, hread, ⟨-, x, hs⟩ | ⟨t, e, ⟨rfl, -, hknown, -⟩, -, hoff⟩⟩
  · exact Quantity.hasOffset_of_zero rfl
  · exact hs.hasOffset
  obtain ⟨factor, hknows, -⟩ := hknown
  have hslash : 0 < (renderPowers powers).toList.count '/' := by
    have hany : powers.any (fun c => c.2 < 0) = true :=
      List.any_eq_true.mpr ⟨c, hc, decide_eq_true hneg⟩
    rw [count_renderPowers h0, slashes, if_pos hany]
    omega
  rcases parse_cases hparse with ⟨hblank, -⟩ | ⟨p, hread', ⟨hfactors, -⟩ | ⟨_, _, ⟨rfl, -⟩, -⟩⟩
  · have hmem := List.count_pos_iff.mp hslash
    exact absurd (List.all_eq_true.mp hblank _ hmem) (by decide)
  · -- The unit is found again among the terms of the text, all of which are without an offset.
    have hreads := Plan.read_ok.mp hread'
    obtain ⟨w, hw, hsame⟩ := word_termText hread c.2.natAbs fun w hw => by
      obtain ⟨t', -, ht'⟩ := hreads.word (pieces_renderPowers hc hneg.ne hw)
      exact ⟨t'.2, ht'⟩
    obtain ⟨t', ht', hword⟩ := hreads.word (pieces_renderPowers hc hneg.ne hw)
    obtain ⟨hb, hs⟩ := hsame t'.2 hword
    have ho := (hfactors t' ht').congr hb hs hknows
    rw [Quantity.hasOffset, hoff]
    exact ho
  · rw [(Plan.read_ok.mp hread').count_slash] at hslash
    exact absurd hslash (lt_irrefl 0)

end Quantities.Registry
