import Quantities.Proofs.Text.Canonical.Order
import Quantities.Proofs.Text.Canonical.Tables

/-!
# Normal form C is its own normal form

Composition joins characters, and decomposition takes them apart again: behind a base character,
the marks that are read stand in the order of their classes, so that a mark which nothing blocks
may be moved next to the base (`Waiting.passes`). The text that comes back therefore decomposes
into the text that was composed, up to the order of marks (`order_decompose_compose`).

* **`composedPoints_composedPoints`**: the normal form of a normal form is itself.
-/

namespace Quantities.Text.Canonical

variable {base k m n : Nat} {marks ms ns : List Nat}

/-! ## Composition is undone -/

/-- All characters are decomposed. -/
def Decomposed (ns : List Nat) : Prop := ∀ n ∈ ns, parts? n = none

theorem expand_of_decomposed (h : Decomposed ns) (hn : n ∈ ns) : expand 4 n = [n] :=
  expand_of_parts?_eq_none (h n hn) 4

theorem decompose_append (ms ns : List Nat) :
    decompose (ms ++ ns) = decompose ms ++ decompose ns := List.flatMap_append

theorem decompose_cons (n : Nat) (ns : List Nat) :
    decompose (n :: ns) = expand 4 n ++ decompose ns := List.flatMap_cons

theorem decompose_of_decomposed (h : Decomposed ns) : decompose ns = ns := by
  unfold decompose
  rw [List.flatMap_congr fun n hn => expand_of_decomposed h hn, List.flatMap_singleton']

theorem decomposed_decompose (ns : List Nat) : Decomposed (decompose ns) := by
  intro m hm
  obtain ⟨n, -, hm⟩ := List.mem_flatMap.mp hm
  exact (settles n).succ m hm

/-- The marks behind a base character that were not joined, last one first. -/
structure Waiting (marks ns : List Nat) : Prop where
  isMark : ∀ m ∈ marks, combiningClass m ≠ 0
  sorted : Sorted (marks.reverse ++ ns)

/-- The mark read last has the highest class of those that are waiting. -/
theorem Waiting.le_head (h : Waiting (k :: marks) ns) :
    ∀ m ∈ k :: marks, combiningClass m ≤ combiningClass k := by
  have hchain : (k :: marks).IsChain fun m n => combiningClass n ≤ combiningClass m :=
    (List.isChain_reverse.mp h.sorted.left_of_append).imp_of_mem_imp fun m n hm _ hmn =>
      hmn (h.isMark m hm)
  have htrans : Trans (fun m n : Nat => combiningClass n ≤ combiningClass m)
      (fun m n => combiningClass n ≤ combiningClass m)
      (fun m n => combiningClass n ≤ combiningClass m) := ⟨fun h h' => h'.trans h⟩
  intro m hm
  rcases List.mem_cons.mp hm with rfl | hm
  · exact le_rfl
  · exact (List.pairwise_cons.mp (List.isChain_iff_pairwise.mp hchain)).1 m hm

/-- A mark that nothing blocks passes all that are waiting. -/
theorem Waiting.passes (h : Waiting marks ns) (hnext : isNext marks n = true) :
    ∀ m ∈ marks, Passes n m := by
  cases marks with
  | nil => exact nofun
  | cons k marks =>
    intro m hm
    exact ⟨h.isMark m hm, (h.le_head m hm).trans_lt (of_decide_eq_true hnext)⟩

theorem Waiting.skip (h : Waiting marks (n :: ns)) (hnext : isNext marks n = true) :
    Waiting marks ns := by
  refine ⟨h.isMark, ?_⟩
  obtain ⟨hmarks, hns, hlink⟩ := List.isChain_append.mp h.sorted
  refine List.isChain_append.mpr ⟨hmarks, hns.tail, fun m hm k hk h0 => ?_⟩
  have hm' : m ∈ marks := List.mem_reverse.mp (List.mem_of_getLast? hm)
  exact (h.passes hnext m hm').2.le.trans ((List.isChain_cons.mp hns).1 k hk h0)

theorem Waiting.push (h : Waiting marks (n :: ns)) (hn : combiningClass n ≠ 0) :
    Waiting (n :: marks) ns := by
  refine ⟨List.forall_mem_cons.mpr ⟨hn, h.isMark⟩, ?_⟩
  rw [List.reverse_cons, List.append_assoc]
  exact h.sorted

theorem Waiting.restart (h : Waiting marks (n :: ns)) : Waiting [] ns :=
  ⟨List.forall_mem_nil _, h.sorted.right_of_append.tail⟩

theorem next_of_join {joined : Nat}
    (h : (if isNext marks n then join? base n else none) = some joined) :
    isNext marks n = true ∧ join? base n = some joined := by
  split at h
  · exact ⟨‹_›, h⟩
  · exact nomatch h

/-- **What is composed behind a base character decomposes into what it was composed of.** -/
theorem order_decompose_composeFrom (base : Nat) (marks ns : List Nat) (hmarks : Decomposed marks)
    (hns : Decomposed ns) (h : Waiting marks ns) :
    order (decompose (composeFrom base marks ns)) =
      order (expand 4 base ++ (marks.reverse ++ ns)) := by
  fun_induction composeFrom base marks ns with
  | case1 base marks =>
    have hmarks' : Decomposed marks.reverse := fun m hm => hmarks m (List.mem_reverse.mp hm)
    rw [decompose_cons, decompose_of_decomposed hmarks', List.append_nil]
  | case2 base marks n ns joined hjoin ih =>
    obtain ⟨hn, hns'⟩ := List.forall_mem_cons.mp hns
    obtain ⟨hnext, hjoin⟩ := next_of_join hjoin
    have hpass : ∀ m ∈ marks.reverse, Passes n m := fun m hm =>
      h.passes hnext m (List.mem_reverse.mp hm)
    rw [ih hmarks hns' (h.skip hnext), expand_of_join? hjoin,
      expand_of_parts?_eq_none hn, List.append_assoc]
    exact order_append_congr _ (order_cons_append hpass ns)
  | case3 base marks n ns hjoin hn ih =>
    obtain ⟨hn', hns'⟩ := List.forall_mem_cons.mp hns
    have hmarks' : Decomposed marks.reverse := fun m hm => hmarks m (List.mem_reverse.mp hm)
    have ih := ih (List.forall_mem_nil _) hns' h.restart
    rw [expand_of_parts?_eq_none hn'] at ih
    rw [decompose_append, decompose_cons, decompose_of_decomposed hmarks', ← List.append_assoc]
    exact order_append_congr _ ih
  | case4 base marks n ns hjoin hn ih =>
    obtain ⟨hn', hns'⟩ := List.forall_mem_cons.mp hns
    rw [ih (List.forall_mem_cons.mpr ⟨hn', hmarks⟩) hns' (h.push hn), List.reverse_cons,
      List.append_assoc]
    rfl

/-- **Composition is undone by decomposition.** -/
theorem order_decompose_compose : ∀ {ns : List Nat}, Decomposed ns → Sorted ns →
    order (decompose (compose ns)) = order ns
  | [], _, _ => rfl
  | n :: ns, hns, h => by
    obtain ⟨hn', hns'⟩ := List.forall_mem_cons.mp hns
    unfold compose
    split
    · have hwait : Waiting [] ns := ⟨List.forall_mem_nil _, h.tail⟩
      rw [order_decompose_composeFrom n [] ns (List.forall_mem_nil _) hns' hwait,
        expand_of_parts?_eq_none hn']
      rfl
    · rw [decompose_cons, expand_of_parts?_eq_none hn']
      exact order_append_congr [n] (order_decompose_compose hns' h.tail)

/-- Normal form C of code points. -/
def composedPoints (ns : List Nat) : List Nat := compose (order (decompose ns))

/-- **Normal form C is its own normal form.** -/
theorem composedPoints_composedPoints (ns : List Nat) :
    composedPoints (composedPoints ns) = composedPoints ns := by
  have hdecomposed : Decomposed (order (decompose ns)) := fun n hn =>
    decomposed_decompose ns n (mem_order.mp hn)
  have hsorted := sorted_order (decompose ns)
  unfold composedPoints
  rw [order_decompose_compose hdecomposed hsorted, order_of_sorted hsorted]

end Quantities.Text.Canonical
