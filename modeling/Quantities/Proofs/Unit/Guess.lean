import Quantities.Proofs.Unit.Evaluation
import Quantities.Proofs.Unit.Respelling
import Quantities.Proofs.Unit.Spelling
import Quantities.Unit.Standard

/-!
# Symbols with a prefix in front of them

A symbol that stands for no unit is taken for a prefix with a unit behind it. The first character
is tried as the prefix, and where this is no prefix with a unit behind it, the first two.

* `Splits`: a symbol is a prefix with a unit behind it. `Guesses`: of all such splits it is the one
  that is made.
* `Alike`: two terms that have one power, and resolve to the same or fail in one kind. Unit strings
  whose terms are alike stand for the same (`evaluate_matches`).

Main result:
* **`bare_iff_bracketed`**: a symbol that stands for a unit is that unit, however it could be split.
  Any other symbol is known exactly when there is a split to be made, and in every unit string it
  can then be replaced by the prefix in brackets with the unit behind it.
-/

namespace Quantities.Registry

open Outcome (Matches)

variable {α : Type} [Scalar α] {reg : Registry α} {text text' symbol p s : String}
  {r : α × UnitEntry α}

/-! ## Splits of a symbol -/

/-- A symbol is a prefix with a unit behind it. -/
structure Splits (reg : Registry α) (symbol p s : String) (r : α × UnitEntry α) : Prop where
  text : symbol = p ++ s
  ne_empty : s ≠ ""
  factor : reg.lookupPrefix p = some r.1
  unit : reg.lookupUnit s = some r.2

/-- The split that is made: behind the first character, and otherwise behind the second. -/
inductive Guesses (reg : Registry α) (symbol p s : String) (r : α × UnitEntry α) : Prop
  | one (h : reg.Splits symbol p s r) (hp : p.length = 1)
  | two (h : reg.Splits symbol p s r) (hp : p.length = 2)
      (hone : ∀ p' s' r', p'.length = 1 → ¬ reg.Splits symbol p' s' r')

omit [Scalar α] in
theorem split?_eq_some {n : Nat} :
    reg.split? symbol n = some r ↔ ∃ p s, p.length = n ∧ reg.Splits symbol p s r := by
  unfold split?
  constructor
  · intro h
    simp only at h
    split at h
    · exact nomatch h
    rename_i hlength
    split at h
    · rename_i factor e hfactor hunit
      obtain rfl := Option.some.inj h
      have htext : symbol = String.ofList (symbol.toList.take n) ++
          String.ofList (symbol.toList.drop n) := by
        rw [← String.ofList_append, List.take_append_drop, String.ofList_toList]
      refine ⟨_, _, ?_, htext, ?_, hfactor, hunit⟩
      · rw [String.length_ofList, List.length_take]
        omega
      · intro hempty
        have hdrop := congrArg String.toList hempty
        rw [String.toList_ofList, String.toList_empty, List.drop_eq_nil_iff] at hdrop
        exact hlength hdrop
    · exact nomatch h
  · rintro ⟨p, s, rfl, rfl, hne, hfactor, hunit⟩
    have hlong : ¬ (p ++ s).toList.length ≤ p.toList.length := by
      have hs : s.toList ≠ [] := fun h => hne (String.toList_eq_nil_iff.mp h)
      have hpos := List.length_pos_of_ne_nil hs
      rw [String.toList_append, List.length_append]
      omega
    rw [← String.length_toList]
    simp only
    rw [if_neg hlong, String.toList_append, List.take_left, List.drop_left, String.ofList_toList,
      String.ofList_toList, hfactor, hunit]

/-- **What a symbol that is no unit is taken for.** -/
theorem resolveBare?_eq_some (hnone : reg.lookupUnit symbol = none) :
    reg.resolveBare? symbol = some r ↔ ∃ p s, reg.Guesses symbol p s r := by
  unfold resolveBare?
  rw [hnone]
  simp only
  cases hone : reg.split? symbol 1 with
  | some r' =>
    simp only
    constructor
    · intro h
      obtain ⟨p, s, hp, hs⟩ := split?_eq_some.mp (hone.trans h)
      exact ⟨p, s, .one hs hp⟩
    · rintro ⟨p, s, ⟨h, hp⟩ | ⟨h, hp, hnot⟩⟩
      · exact hone.symm.trans (split?_eq_some.mpr ⟨p, s, hp, h⟩)
      · obtain ⟨p', s', hp', h'⟩ := split?_eq_some.mp hone
        exact absurd h' (hnot p' s' r' hp')
  | none =>
    have hnot : ∀ p' s' r', p'.length = 1 → ¬ reg.Splits symbol p' s' r' := by
      intro p' s' r' hp' h'
      rw [split?_eq_some.mpr ⟨p', s', hp', h'⟩] at hone
      exact nomatch hone
    simp only
    constructor
    · intro h
      obtain ⟨p, s, hp, hs⟩ := split?_eq_some.mp h
      exact ⟨p, s, .two hs hp hnot⟩
    · rintro ⟨p, s, ⟨h, hp⟩ | ⟨h, hp, -⟩⟩
      · exact absurd h (hnot p s r hp)
      · exact split?_eq_some.mpr ⟨p, s, hp, h⟩

omit [Scalar α] in
theorem Guesses.splits (h : reg.Guesses symbol p s r) : reg.Splits symbol p s r ∧ p ≠ "" := by
  obtain ⟨h, hp⟩ | ⟨h, hp, -⟩ := h <;> refine ⟨h, ?_⟩ <;> rintro rfl <;> exact nomatch hp

/-- The split that is made can be written with brackets. -/
theorem Guesses.resolve (h : reg.Guesses symbol p s r) (text : String) (n : Int) :
    reg.resolve text ⟨some p, s, n⟩ = .ok r := by
  obtain ⟨hs, hp⟩ := h.splits
  refine resolve_ok.mpr (Or.inr ⟨p, rfl, ?_, hs.unit⟩)
  rw [bracketFactor?, if_neg hp]
  exact hs.factor

/-! ## Terms that are alike -/

/-- Two terms of two unit strings have one power, and resolve to the same or fail in one kind. -/
def Alike (reg : Registry α) (text text' : String) (t t' : Term) : Prop :=
  t.power = t'.power ∧ Matches Eq (reg.resolve text t) (reg.resolve text' t')

/-- The unit string around a term matters for the wording of a failure only. -/
theorem alike_refl (reg : Registry α) (text text' : String) (t : Term) :
    reg.Alike text text' t t := by
  refine ⟨rfl, ?_⟩
  unfold Registry.resolve
  cases t.bracket with
  | none =>
    dsimp only
    cases reg.resolveBare? t.symbol with
    | none => exact .error rfl
    | some r => exact .ok rfl
  | some bracket =>
    dsimp only
    cases reg.bracketFactor? bracket with
    | none => exact .error rfl
    | some factor =>
      cases reg.lookupUnit t.symbol with
      | none => exact .error rfl
      | some e => exact .ok rfl

theorem Alike.termQuantity {t t' : Term} (h : reg.Alike text text' t t') (divided : Bool) :
    Matches Eq (reg.termQuantity text divided t) (reg.termQuantity text' divided t') := by
  unfold Registry.termQuantity
  rw [h.1]
  refine h.2.bind fun r r' hr => ?_
  obtain rfl := hr
  refine (Matches.same _).bind fun one one' hone => ?_
  obtain rfl := hone
  dsimp only
  split
  · exact .error rfl
  · exact .same _

variable {P Q : Plan}

theorem product_matches {ts us : List (Bool × Term)}
    (h : List.Forall₂ (fun t u => t.1 = u.1 ∧ reg.Alike text text' t.2 u.2) ts us) :
    Matches Eq (reg.product text ts) (reg.product text' us) := by
  refine Matches.foldlM (h.imp fun t u htu acc acc' hacc => ?_) rfl
  obtain rfl := hacc
  rw [htu.1]
  refine (htu.2.termQuantity u.1).bind fun q q' hq => ?_
  obtain rfl := hq
  exact .same _

/-- **Plans whose terms are alike stand for the same.** -/
theorem evaluate_matches (h : P.Related (reg.Alike text text') Q) :
    Matches Eq (reg.evaluate text P) (reg.evaluate text' Q) := by
  have hproduct := product_matches h.terms
  obtain ⟨ns, ds⟩ := P
  obtain ⟨ns', ds'⟩ := Q
  obtain ⟨hn, hd⟩ := h
  cases hd with
  | some hd =>
    cases hn with
    | nil => exact hproduct
    | cons ht hts => cases hts <;> exact hproduct
  | none =>
    cases hn with
    | nil => exact hproduct
    | @cons t t' _ _ ht hts =>
      cases hts with
      | cons ht' hts => exact hproduct
      | nil =>
        rw [evaluate_singleton, evaluate_singleton, ht.1]
        refine ht.2.bind fun r r' hr => ?_
        obtain rfl := hr
        split
        · exact .same _
        · exact hproduct

/-! ## Unit strings -/

/-- What can stand in a unit string before and behind a symbol: nothing, or a character that ends
words, and behind it also a caret. -/
structure Around (a b : String) : Prop where
  before : ∀ c ∈ a.toList.getLast?, Plan.isBreak c = true
  behind : ∀ c ∈ b.toList.head?, Plan.isBreak c = true ∨ c = '^'

/-- What stands behind a symbol is the rest of its word, which is a power, and the rest of the
text. -/
theorem Around.power {a b : String} (h : Around a b) : ∃ power rest,
    b.toList = Term.powerText power ++ rest ∧ (∀ c ∈ Term.powerText power, Plan.isBreak c = false) ∧
      ∀ c ∈ rest.head?, Plan.isBreak c = true := by
  have hbehind := h.behind
  generalize b.toList = cs at hbehind ⊢
  cases cs with
  | nil => exact ⟨none, [], rfl, nofun, nofun⟩
  | cons c cs =>
    rcases hbehind c rfl with hc | rfl
    · refine ⟨none, c :: cs, rfl, nofun, fun c' hc' => ?_⟩
      obtain rfl := Option.some.inj hc'
      exact hc
    · refine ⟨some (cs.takeWhile fun c => !Plan.isBreak c), cs.dropWhile fun c => !Plan.isBreak c,
        ?_, ?_, ?_⟩
      · rw [Term.powerText, List.cons_append, List.takeWhile_append_dropWhile]
      · refine List.forall_mem_cons.mpr ⟨by decide, fun c hc => ?_⟩
        simpa using List.mem_takeWhile_imp hc
      · intro c hc
        have hnot := List.head?_dropWhile_not (fun c => !Plan.isBreak c) cs
        rw [Option.mem_def.mp hc] at hnot
        simpa using hnot

/-- The word with the symbol, and the same word with its prefix in brackets. -/
theorem Guesses.word (h : reg.Guesses symbol p s r) (hnone : reg.lookupUnit symbol = none)
    (hsymbol : Spellable symbol) (power : Option (List Char)) :
    Matches (reg.Alike text text') (Term.read text (symbol.toList ++ Term.powerText power))
      (Term.read text' ('[' :: (p.toList ++ [']']) ++ s.toList ++ Term.powerText power)) := by
  obtain ⟨hs, -⟩ := h.splits
  have hplain : ∀ c ∈ symbol.toList, c ≠ '[' ∧ c ≠ ']' ∧ c ≠ '^' := fun c hc =>
    (not_mem_delimiters.mp (hsymbol.plain c hc).2).2
  have hsub : ∀ c, c ∈ p.toList ∨ c ∈ s.toList → c ∈ symbol.toList := by
    intro c hc
    rw [hs.text, String.toList_append]
    exact List.mem_append.mpr hc
  have shape : Term.Shape (symbol.toList ++ Term.powerText power) none symbol.toList power :=
    ⟨rfl, nofun, hsymbol.toList_ne_nil, hplain⟩
  have shape' : Term.Shape ('[' :: (p.toList ++ [']']) ++ s.toList ++ Term.powerText power)
      (some p.toList) s.toList power := by
    refine ⟨rfl, ?_, fun hnil => hs.ne_empty (String.toList_eq_nil_iff.mp hnil),
      fun c hc => hplain c (hsub c (Or.inr hc))⟩
    rintro cs hcs c hc
    obtain rfl := Option.some.inj hcs
    exact ⟨(hplain c (hsub c (Or.inl hc))).1, (hplain c (hsub c (Or.inl hc))).2.1⟩
  have hbare : ∀ n, reg.resolve text ⟨none, symbol, n⟩ = .ok r := fun n =>
    resolve_ok.mpr (Or.inl ⟨rfl, (resolveBare?_eq_some hnone).mpr ⟨p, s, h⟩⟩)
  have halike : ∀ n, reg.Alike text text' ⟨none, symbol, n⟩ ⟨some p, s, n⟩ := fun n => by
    refine ⟨rfl, ?_⟩
    rw [hbare, h.resolve]
    exact .ok rfl
  refine shape.read_matches shape' fun n => ?_
  rw [Option.map_some, String.ofList_toList, String.ofList_toList, String.ofList_toList]
  exact halike n

/-- In a unit string the prefix can be put in brackets. -/
theorem Guesses.read (h : reg.Guesses symbol p s r) (hnone : reg.lookupUnit symbol = none)
    (hsymbol : Spellable symbol) {a b : String} (hab : Around a b)
    (htext : text = a ++ symbol ++ b) (htext' : text' = a ++ "[" ++ p ++ "]" ++ s ++ b) :
    Matches (Plan.Related (reg.Alike text text')) (Plan.read text) (Plan.read text') := by
  obtain ⟨hs, -⟩ := h.splits
  obtain ⟨power, rest, hb, hpower, hrest⟩ := hab.power
  have hplain : ∀ c ∈ symbol.toList, Plan.isBreak c = false := fun c hc =>
    (not_isBreak_of_plain (hsymbol.plain c hc)).1
  have hlist : symbol.toList = p.toList ++ s.toList := by rw [hs.text, String.toList_append]
  have hw : ∀ c ∈ symbol.toList ++ Term.powerText power, Plan.isBreak c = false := fun c hc =>
    (List.mem_append.mp hc).elim (hplain c) (hpower c)
  rw [hlist] at hplain
  have respelled : Plan.Respelled (symbol.toList ++ Term.powerText power)
      ('[' :: (p.toList ++ [']']) ++ s.toList ++ Term.powerText power) a.toList rest := by
    refine ⟨Text.tail_eq_nil hab.before, hrest, ⟨?_, hw⟩, ⟨by simp, ?_⟩, ?_⟩
    · exact fun hnil => hsymbol.toList_ne_nil (List.append_eq_nil_iff.mp hnil).1
    · have hopen : Plan.isBreak '[' = false ∧ Plan.isBreak ']' = false := by decide
      grind
    · rw [hlist]
      grind
  refine respelled.read (reg.alike_refl text text') (h.word hnone hsymbol power) ?_ ?_
  · rw [htext, String.toList_append, String.toList_append, hb]
    simp only [List.append_assoc]
  · rw [htext']
    simp only [String.toList_append, hb, List.append_assoc, List.cons_append]
    rfl

theorem parse_matches (hblank : text.toList.all Text.isBlank = false)
    (hblank' : text'.toList.all Text.isBlank = false)
    (h : Matches (Plan.Related (reg.Alike text text')) (Plan.read text) (Plan.read text')) :
    Matches Eq (reg.parse text) (reg.parse text') := by
  unfold parse
  rw [hblank, hblank']
  exact h.bind fun _ _ => evaluate_matches

/-- **A prefix in front of a symbol needs no brackets.** A symbol that stands for a unit denotes it,
with the factor one, however it could be split. Any other symbol resolves exactly when it can be
split behind its first character, or otherwise behind the second, into a prefix and a unit. In every
unit string, and with whatever power behind it, such a symbol stands for the same as the prefix in
brackets with the unit behind it: the unit strings have the same quantity, or fail in one kind. -/
theorem bare_iff_bracketed (reg : Registry α) (symbol : String) :
    (∀ e, reg.lookupUnit symbol = some e → ∀ text n,
        reg.resolve text ⟨none, symbol, n⟩ = .ok (1, e)) ∧
      (reg.lookupUnit symbol = none →
        (∀ text n r, reg.resolve text ⟨none, symbol, n⟩ = .ok r ↔
            ∃ p s, reg.Guesses symbol p s r) ∧
        ∀ p s r, reg.Guesses symbol p s r → Spellable symbol → ∀ a b, Around a b →
          Matches Eq (reg.parse (a ++ symbol ++ b))
            (reg.parse (a ++ "[" ++ p ++ "]" ++ s ++ b))) := by
  refine ⟨fun e he text n => ?_, fun hnone => ⟨fun text n r => ?_, ?_⟩⟩
  · refine resolve_ok.mpr (Or.inl ⟨rfl, ?_⟩)
    rw [resolveBare?, he]
  · rw [resolve_ok, ← resolveBare?_eq_some hnone]
    simp
  · intro p s r h hsymbol a b hab
    refine parse_matches ?_ ?_ (h.read hnone hsymbol hab rfl rfl)
    · obtain ⟨c, hc⟩ := List.exists_mem_of_ne_nil _ hsymbol.toList_ne_nil
      rw [List.all_eq_false]
      refine ⟨c, ?_, by rw [(hsymbol.plain c hc).1]; decide⟩
      simp [hc]
    · rw [List.all_eq_false]
      exact ⟨'[', by simp, by decide⟩

theorem bare_iff_bracketed_kilometre :
    let reg : Registry Float := Registry.standard
    reg.lookupUnit "km" = none ∧ (∃ r, reg.Guesses "km" "k" "m" r) ∧
      Matches Eq (reg.parse "N / km^2") (reg.parse "N / [k]m^2") := by
  intro reg
  have hnone : reg.lookupUnit "km" = none := by decide +kernel
  have hsplit : ∃ r, reg.Guesses "km" "k" "m" r := by
    have hfactor : (reg.lookupPrefix "k").isSome := by decide +kernel
    have hunit : (reg.lookupUnit "m").isSome := by decide +kernel
    obtain ⟨factor, hfactor⟩ := Option.isSome_iff_exists.mp hfactor
    obtain ⟨e, hunit⟩ := Option.isSome_iff_exists.mp hunit
    exact ⟨(factor, e), .one ⟨by decide +kernel, by decide, hfactor, hunit⟩ (by decide +kernel)⟩
  have haround : Around "N / " "^2" := by
    have hlast : "N / ".toList.getLast? = some ' ' := by decide +kernel
    have hhead : "^2".toList.head? = some '^' := by decide +kernel
    refine ⟨fun c hc => ?_, fun c hc => Or.inr (Option.some.inj (hhead.symm.trans hc)).symm⟩
    obtain rfl := Option.some.inj (hlast.symm.trans hc)
    decide
  refine ⟨hnone, hsplit, ?_⟩
  obtain ⟨r, hr⟩ := hsplit
  exact ((bare_iff_bracketed reg "km").2 hnone).2 "k" "m" r hr (by decide +kernel) "N / " "^2"
    haround

end Quantities.Registry
