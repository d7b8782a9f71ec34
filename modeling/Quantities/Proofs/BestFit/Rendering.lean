import Quantities.Proofs.BestFit.Search
import Quantities.Proofs.Unit.Denotation

/-!
# The text of powers

Powers of units are written unit by unit: the text of the unit as it stands, and its power behind
it. What that text stands for need not be what the powers say.

* `toList_renderPowers`: the text is one side (`sideText`), or two with a slash between them.
* `raisedDimension`: a power behind a unit string raises its last term only. `juxtaposed`: what
  follows a slash is divided by.
* **`denotes_renderPowers`**: where every unit with its power is read, and there is at most one
  slash, the text stands for something, and its dimension is `writtenDimension`.
* `count_renderPowers` and `pieces_renderPowers` say what the text contains, whether it can be read
  or not: the slashes of the units and one where a power is below zero, and the words of every unit
  with its power.
-/

namespace Quantities

open Text (tail pieces)

namespace BestFit

/-! ## The text of powers -/

/-- Is there a slash in a unit string? -/
def hasSlash (unit : String) : Bool := 0 < unit.toList.count '/'

/-- The slashes in the text of powers. -/
def slashes (powers : List (String × Int)) : Nat :=
  (powers.map fun c => c.1.toList.count '/').sum + if powers.any (fun c => c.2 < 0) then 1 else 0

/-- The dimension of texts next to each other, each with or without a slash. What follows a slash is
divided by. -/
def juxtaposed : List (Bool × Dimension) → Dimension
  | [] => 1
  | (false, d) :: ds => d * juxtaposed ds
  | (true, d) :: ds => d / (ds.map Prod.snd).prod

theorem juxtaposed_of_false : ∀ {ds : List (Bool × Dimension)}, (∀ c ∈ ds, c.1 = false) →
    juxtaposed ds = (ds.map Prod.snd).prod
  | [], _ => rfl
  | (false, d) :: ds, h => by
    rw [juxtaposed, juxtaposed_of_false fun c hc => h c (List.mem_cons_of_mem _ hc), List.map_cons,
      List.prod_cons]
  | (true, d) :: ds, h => absurd (h _ List.mem_cons_self) (by simp)

theorem toList_termText (unit : String) (n : Nat) : (termText unit n).toList =
    if n = 1 then unit.toList else unit.toList ++ '^' :: Nat.toDigits 10 n := by
  unfold termText
  split
  · rfl
  · simp [Number.natText]

theorem toList_intercalate_cons (u : String) {us : List String} (h : us ≠ []) :
    (" ".intercalate (u :: us)).toList = u.toList ++ ' ' :: (" ".intercalate us).toList := by
  rw [String.intercalate_cons_of_ne_nil h]
  simp

/-- The text of powers on one side of the slash, without their signs. -/
def sideText (powers : List (String × Int)) : String :=
  sectionText (powers.map fun c => termText c.1 c.2.natAbs)

theorem sideText_of_ne_nil {powers : List (String × Int)} (h : powers ≠ []) :
    sideText powers = " ".intercalate (powers.map fun c => termText c.1 c.2.natAbs) := by
  rw [sideText, sectionText, if_neg (by simpa using h)]

/-- The text of powers is one side, or two with a slash between them. -/
theorem toList_renderPowers (powers : List (String × Int)) : (renderPowers powers).toList =
    if (powers.filter fun c => c.2 < 0) = [] then
      (sideText (powers.filter fun c => 0 < c.2)).toList
    else (sideText (powers.filter fun c => 0 < c.2)).toList ++ ' ' :: '/' :: ' ' ::
      (sideText (powers.filter fun c => c.2 < 0)).toList := by
  unfold renderPowers
  simp only [List.isEmpty_iff, List.map_eq_nil_iff]
  split
  · rfl
  · rename_i hne
    rw [sideText_of_ne_nil hne, String.toList_append, String.toList_append, List.append_assoc]
    rfl

end BestFit

variable {α : Type} [Scalar α] {reg : Registry α}

/-- Texts next to each other that have at most one slash. -/
theorem Registry.denotes_intercalate :
    ∀ {l : List (String × Bool × Dimension)}, l ≠ [] →
      (∀ x ∈ l, reg.Denotes x.1.toList x.2.1 x.2.2) → l.countP (fun x => x.2.1) ≤ 1 →
        reg.Denotes (" ".intercalate (l.map Prod.fst)).toList (l.any fun x => x.2.1)
          (BestFit.juxtaposed (l.map Prod.snd))
  | [], h, _, _ => absurd rfl h
  | [(u, slash, d)], _, hl, _ => by
    have h := hl _ List.mem_cons_self
    cases slash <;> simpa [BestFit.juxtaposed] using h
  | (u, slash, d) :: y :: l, _, hl, hcount => by
    have hu := hl _ List.mem_cons_self
    have hrest := fun x hx => hl x (List.mem_cons_of_mem _ hx)
    rw [List.map_cons, BestFit.toList_intercalate_cons u (by simp), List.any_cons, List.map_cons]
    cases slash with
    | false =>
      rw [List.countP_cons_of_neg (by simp)] at hcount
      have ih := denotes_intercalate (by simp) hrest hcount
      exact hu.product_append ih
    | true =>
      rw [List.countP_cons_of_pos (by simp)] at hcount
      have hnone : ∀ x ∈ y :: l, x.2.1 = false := by
        have := List.countP_eq_zero.mp (by omega : (y :: l).countP (fun x => x.2.1) = 0)
        simpa using this
      have ih := denotes_intercalate (by simp) hrest (by omega)
      have hany : ((y :: l).any fun x => x.2.1) = false := by simpa using hnone
      have hsnd : ∀ c ∈ (y :: l).map Prod.snd, c.1 = false := List.forall_mem_map.mpr hnone
      rw [hany, BestFit.juxtaposed_of_false hsnd] at ih
      exact hu.quotient_append ih

namespace Registry

open BestFit

/-! ## The dimension that is written -/

/-- The dimension of a unit string, `1` if it stands for nothing. -/
def dimensionOf (reg : Registry α) (unit : String) : Dimension :=
  match reg.parse unit with
  | .ok q => q.dimension
  | .error _ => 1

/-- The dimension of a unit string with a power behind it, which raises the last term only. -/
def raisedDimension (reg : Registry α) (unit : String) (n : Nat) : Dimension :=
  reg.dimensionOf unit * reg.lastDimension unit ^ ((n : Int) - 1)

/-- The dimension of the text of powers on one side of the slash. -/
def sideDimension (reg : Registry α) (powers : List (String × Int)) : Dimension :=
  juxtaposed (powers.map fun c => (hasSlash c.1, reg.raisedDimension c.1 c.2.natAbs))

/-- The dimension of the text of powers. -/
def writtenDimension (reg : Registry α) (powers : List (String × Int)) : Dimension :=
  reg.sideDimension (powers.filter fun c => 0 < c.2) /
    reg.sideDimension (powers.filter fun c => c.2 < 0)

variable {powers : List (String × Int)}

theorem countP_hasSlash_le : ∀ powers : List (String × Int),
    powers.countP (fun c => hasSlash c.1) ≤ (powers.map fun c => c.1.toList.count '/').sum
  | [] => le_rfl
  | c :: powers => by
    have ih := countP_hasSlash_le powers
    rw [List.map_cons, List.sum_cons, List.countP_cons]
    split
    · rename_i h
      have hc : 0 < c.1.toList.count '/' := by simpa [hasSlash] using h
      omega
    · omega

/-- One side of the slash. -/
theorem denotes_sideText (hone : reg.Denotes "1".toList false 1)
    (hterms : ∀ c ∈ powers, reg.Denotes (termText c.1 c.2.natAbs).toList (hasSlash c.1)
      (reg.raisedDimension c.1 c.2.natAbs))
    (hslashes : powers.countP (fun c => hasSlash c.1) ≤ 1) :
    reg.Denotes (sideText powers).toList (powers.any fun c => hasSlash c.1)
      (reg.sideDimension powers) := by
  by_cases hnil : powers = []
  · subst hnil
    exact hone
  · have h := reg.denotes_intercalate
      (l := powers.map fun c => (termText c.1 c.2.natAbs, hasSlash c.1,
        reg.raisedDimension c.1 c.2.natAbs))
      (by simpa using hnil)
      (fun x hx => by obtain ⟨c, hc, rfl⟩ := List.mem_map.mp hx; exact hterms c hc)
      (by rw [List.countP_map]; exact hslashes)
    rw [sideText_of_ne_nil hnil]
    simpa [sideDimension, List.map_map, Function.comp_def] using h

/-- **The dimension of the text of powers**, where every term of it is read and it has at most one
slash. -/
theorem denotes_renderPowers (hone : reg.Denotes "1".toList false 1)
    (hterms : ∀ c ∈ powers, reg.Denotes (termText c.1 c.2.natAbs).toList (hasSlash c.1)
      (reg.raisedDimension c.1 c.2.natAbs)) (hslashes : slashes powers ≤ 1) :
    ∃ slash, reg.Denotes (renderPowers powers).toList slash (reg.writtenDimension powers) := by
  have hcount := countP_hasSlash_le powers
  have hside : ∀ f : String × Int → Bool, reg.Denotes (sideText (powers.filter f)).toList
      ((powers.filter f).any fun c => hasSlash c.1) (reg.sideDimension (powers.filter f)) := by
    intro f
    refine denotes_sideText hone (fun c hc => hterms c (List.mem_filter.mp hc).1) ?_
    have := (List.filter_sublist (p := f) (l := powers)).countP_le (p := fun c => hasSlash c.1)
    unfold slashes at hslashes
    omega
  rw [toList_renderPowers, writtenDimension]
  split
  · rename_i hnil
    rw [hnil]
    exact ⟨_, (div_one (reg.sideDimension _)).symm ▸ hside fun c => 0 < c.2⟩
  · rename_i hne
    -- The slash between the sides is the only one, so no unit has another.
    have hneg : powers.any (fun c => c.2 < 0) = true := by simpa using hne
    have hnone : ∀ c ∈ powers, hasSlash c.1 = false := by
      rw [slashes, if_pos hneg] at hslashes
      have := List.countP_eq_zero.mp (by omega : powers.countP (fun c => hasSlash c.1) = 0)
      simpa using this
    have hfalse : ∀ f : String × Int → Bool,
        ((powers.filter f).any fun c => hasSlash c.1) = false := fun f => by
      rw [List.any_eq_false]
      intro c hc
      simp [hnone c (List.mem_filter.mp hc).1]
    have hnum := hside fun c => 0 < c.2
    have hden := hside fun c => c.2 < 0
    rw [hfalse] at hnum hden
    exact ⟨true, hnum.over hden⟩

end Registry

/-! ## What the text of powers contains -/

namespace BestFit

variable {powers : List (String × Int)} {c : String × Int} {w : List Char}

theorem count_termText (unit : String) (n : Nat) :
    (termText unit n).toList.count '/' = unit.toList.count '/' := by
  rw [toList_termText]
  split
  · rfl
  · have hnone : ('^' :: Nat.toDigits 10 n).count '/' = 0 :=
      List.count_eq_zero.mpr fun h => (Plan.plain_of_mem h).1 rfl
    rw [List.count_append, hnone, Nat.add_zero]

theorem count_intercalate : ∀ us : List String,
    (" ".intercalate us).toList.count '/' = (us.map fun u => u.toList.count '/').sum
  | [] => rfl
  | [u] => by simp
  | u :: v :: us => by
    rw [toList_intercalate_cons u (by simp), List.count_append, List.count_cons_of_ne (by decide),
      count_intercalate (v :: us)]
    simp only [List.map_cons, List.sum_cons]

/-- The words of texts are words of the texts next to each other. -/
theorem pieces_intercalate {u : String} (hw : w ∈ pieces Plan.isBreak u.toList) :
    ∀ {us : List String}, u ∈ us → w ∈ pieces Plan.isBreak (" ".intercalate us).toList
  | [v], h => by
    obtain rfl := List.mem_singleton.mp h
    simpa using hw
  | v :: x :: us, h => by
    rw [toList_intercalate_cons v (by simp), Text.pieces_append_cons Plan.isBreak_blank]
    rcases List.mem_cons.mp h with rfl | h
    · exact List.mem_append_left _ hw
    · exact List.mem_append_right _ (pieces_intercalate hw h)

/-- What is summed over powers is summed over those above and those below zero. -/
theorem sum_filter_add (f : String × Int → Nat) :
    ∀ {powers : List (String × Int)}, (∀ c ∈ powers, c.2 ≠ 0) →
      ((powers.filter fun c => 0 < c.2).map f).sum + ((powers.filter fun c => c.2 < 0).map f).sum =
        (powers.map f).sum
  | [], _ => rfl
  | c :: powers, h => by
    have ih := sum_filter_add f fun x hx => h x (List.mem_cons_of_mem c hx)
    rcases lt_or_gt_of_ne (h c List.mem_cons_self) with hc | hc
    · rw [List.filter_cons_of_neg (by simpa using hc.le), List.filter_cons_of_pos (by simpa using hc),
        List.map_cons, List.map_cons, List.sum_cons, List.sum_cons]
      omega
    · rw [List.filter_cons_of_pos (by simpa using hc), List.filter_cons_of_neg (by simpa using hc.le),
        List.map_cons, List.map_cons, List.sum_cons, List.sum_cons]
      omega

theorem count_sideText (powers : List (String × Int)) : (sideText powers).toList.count '/' =
    (powers.map fun c => c.1.toList.count '/').sum := by
  by_cases hnil : powers = []
  · subst hnil
    rfl
  · rw [sideText_of_ne_nil hnil, count_intercalate, List.map_map]
    simp only [Function.comp_def, count_termText]

/-- The slashes in the text are those of the units, and one where there is a power below zero. -/
theorem count_renderPowers (h : ∀ c ∈ powers, c.2 ≠ 0) :
    (renderPowers powers).toList.count '/' = slashes powers := by
  have hsum := sum_filter_add (fun c => c.1.toList.count '/') h
  rw [toList_renderPowers, slashes]
  split
  · rename_i hnil
    have hany : ¬ powers.any (fun c => c.2 < 0) = true := by simpa using hnil
    rw [if_neg hany, count_sideText, ← hsum, hnil]
    rfl
  · rename_i hne
    have hany : powers.any (fun c => c.2 < 0) = true := by simpa using hne
    rw [if_pos hany, List.count_append, List.count_cons_of_ne (by decide), List.count_cons_self,
      List.count_cons_of_ne (by decide), count_sideText, count_sideText, ← hsum]
    omega

theorem pieces_sideText (hc : c ∈ powers)
    (hw : w ∈ pieces Plan.isBreak (termText c.1 c.2.natAbs).toList) :
    w ∈ pieces Plan.isBreak (sideText powers).toList := by
  rw [sideText_of_ne_nil (List.ne_nil_of_mem hc)]
  exact pieces_intercalate hw (List.mem_map_of_mem (f := fun c => termText c.1 c.2.natAbs) hc)

/-- The words of both sides are the words of the text. -/
theorem pieces_over (a b : List Char) : pieces Plan.isBreak (a ++ ' ' :: '/' :: ' ' :: b) =
    pieces Plan.isBreak a ++ pieces Plan.isBreak b := by
  have hcons : ∀ {x : Char} (cs : List Char), Plan.isBreak x = true →
      pieces Plan.isBreak (x :: cs) = pieces Plan.isBreak cs := fun cs hx => by
    have h := Text.pieces_append_cons (a := []) (b := cs) hx
    rwa [List.nil_append, Text.pieces_nil, List.nil_append] at h
  rw [Text.pieces_append_cons Plan.isBreak_blank, hcons _ (by decide), hcons _ (by decide)]

/-- The words of a unit with its power are words of the text. -/
theorem pieces_renderPowers (hc : c ∈ powers) (h0 : c.2 ≠ 0)
    (hw : w ∈ pieces Plan.isBreak (termText c.1 c.2.natAbs).toList) :
    w ∈ pieces Plan.isBreak (renderPowers powers).toList := by
  have hside : ∀ f : String × Int → Bool, f c = true →
      w ∈ pieces Plan.isBreak (sideText (powers.filter f)).toList := fun f hf =>
    pieces_sideText (List.mem_filter.mpr ⟨hc, hf⟩) hw
  rw [toList_renderPowers]
  split
  · rename_i hnil
    have hnot : ¬ c.2 < 0 := by simpa using List.filter_eq_nil_iff.mp hnil c hc
    exact hside _ (decide_eq_true (by omega))
  · rw [pieces_over]
    rcases lt_or_gt_of_ne h0 with hneg | hpos
    · exact List.mem_append_right _ (hside _ (decide_eq_true hneg))
    · exact List.mem_append_left _ (hside _ (decide_eq_true hpos))

end BestFit

end Quantities
