import Mathlib.Data.List.Chain
import Quantities.Text.Canonical

/-!
# The order of marks

`order` sorts the marks behind every base character by an insertion sort that keeps marks of one
class in place.

* `sorted_order`: what comes out is in order, and `order_of_sorted`: what is in order stays.
* `order_cons_append`: a mark may be read before or behind marks of lower classes.
-/

namespace Quantities.Text.Canonical

variable {k m n : Nat} {ms ns : List Nat}

/-- Marks behind a base character stand in the order of their classes. -/
def Sorted (ns : List Nat) : Prop :=
  ns.IsChain fun m n => combiningClass n ≠ 0 → combiningClass m ≤ combiningClass n

/-- Does the mark `n` move behind `m`? -/
def Passes (n m : Nat) : Prop := combiningClass m ≠ 0 ∧ combiningClass m < combiningClass n

theorem insertMark_of_passes (h : Passes n m) : insertMark n (m :: ms) = m :: insertMark n ms := by
  rw [insertMark]
  exact if_pos h

theorem insertMark_of_not_passes (h : ¬ Passes n m) : insertMark n (m :: ms) = n :: m :: ms := by
  rw [insertMark]
  exact if_neg h

theorem mem_insertMark : ∀ {ms : List Nat}, k ∈ insertMark n ms ↔ k = n ∨ k ∈ ms
  | [] => by simp [insertMark]
  | m :: ms => by
    by_cases h : Passes n m
    · rw [insertMark_of_passes h, List.mem_cons, mem_insertMark, List.mem_cons]
      tauto
    · rw [insertMark_of_not_passes h, List.mem_cons]

theorem mem_order : ∀ {ns : List Nat}, k ∈ order ns ↔ k ∈ ns
  | [] => Iff.rfl
  | n :: ns => by
    have h : k ∈ insertMark n (order ns) ↔ k ∈ n :: ns := by
      rw [mem_insertMark, mem_order, List.mem_cons]
    exact h

theorem head?_insertMark (h : k ∈ (insertMark n ms).head?) : k = n ∨ k ∈ ms.head? := by
  cases ms with
  | nil => exact Or.inl (Option.some.inj h).symm
  | cons m ms =>
    by_cases hp : Passes n m
    · rw [insertMark_of_passes hp] at h
      exact Or.inr h
    · rw [insertMark_of_not_passes hp] at h
      exact Or.inl (Option.some.inj h).symm

/-- A mark that is moved behind others leaves them in order. -/
theorem sorted_insertMark (n : Nat) : ∀ {ms : List Nat}, Sorted ms → Sorted (insertMark n ms)
  | [], _ => .singleton n
  | m :: ms, h => by
    obtain ⟨hhead, htail⟩ := List.isChain_cons.mp h
    by_cases hp : Passes n m
    · rw [insertMark_of_passes hp]
      refine List.isChain_cons.mpr ⟨fun k hk => ?_, sorted_insertMark n htail⟩
      rcases head?_insertMark hk with rfl | hk
      · exact fun _ => hp.2.le
      · exact hhead k hk
    · rw [insertMark_of_not_passes hp]
      refine List.isChain_cons_cons.mpr ⟨fun hm => ?_, h⟩
      exact not_lt.mp fun hlt => hp ⟨hm, hlt⟩

theorem sorted_order : ∀ ns : List Nat, Sorted (order ns)
  | [] => .nil
  | n :: ns => sorted_insertMark n (sorted_order ns)

/-- What is in order stays as it is. -/
theorem order_of_sorted : ∀ {ns : List Nat}, Sorted ns → order ns = ns
  | [], _ => rfl
  | n :: ns, h => by
    have ih : order ns = ns := order_of_sorted (List.IsChain.tail h)
    have hstep : order (n :: ns) = insertMark n (order ns) := rfl
    rw [hstep, ih]
    cases ns with
    | nil => rfl
    | cons m ns =>
      have hnm := (List.isChain_cons_cons.mp h).1
      exact insertMark_of_not_passes fun hp => absurd hp.2 (not_lt.mpr (hnm hp.1))

/-- Marks of two classes are moved independently of each other. -/
theorem insertMark_comm (h : Passes n m) :
    ∀ ks : List Nat, insertMark n (insertMark m ks) = insertMark m (insertMark n ks)
  | [] => by
    have hm : ¬ Passes m n := fun h' => absurd h.2 (not_lt.mpr h'.2.le)
    rw [insertMark, insertMark_of_passes h, insertMark, insertMark_of_not_passes hm]
  | k :: ks => by
    have hm : ¬ Passes m n := fun h' => absurd h.2 (not_lt.mpr h'.2.le)
    by_cases hmk : Passes m k
    · have hnk : Passes n k := ⟨hmk.1, hmk.2.trans h.2⟩
      rw [insertMark_of_passes hmk, insertMark_of_passes hnk, insertMark_of_passes hnk,
        insertMark_of_passes hmk, insertMark_comm h ks]
    · rw [insertMark_of_not_passes hmk, insertMark_of_passes h]
      by_cases hnk : Passes n k
      · rw [insertMark_of_passes hnk, insertMark_of_not_passes hmk]
      · rw [insertMark_of_not_passes hnk, insertMark_of_not_passes hm]

/-- Text before other text, of which only the order matters. -/
theorem order_append (ms ns : List Nat) : order (ms ++ ns) = ms.foldr insertMark (order ns) :=
  List.foldr_append

theorem order_append_congr {ns' : List Nat} (ms : List Nat) (h : order ns = order ns') :
    order (ms ++ ns) = order (ms ++ ns') := by
  rw [order_append, order_append, h]

/-- A mark passes others of lower classes. -/
theorem order_cons_append (h : ∀ m ∈ ms, Passes n m) (ns : List Nat) :
    order (n :: (ms ++ ns)) = order (ms ++ n :: ns) := by
  induction ms with
  | nil => rfl
  | cons m ms ih =>
    have hstep : order (n :: (m :: ms ++ ns)) =
        insertMark n (insertMark m (order (ms ++ ns))) := rfl
    have ih := ih fun k hk => h k (List.mem_cons_of_mem m hk)
    have hih : insertMark n (order (ms ++ ns)) = order (ms ++ n :: ns) := ih
    rw [hstep, insertMark_comm (h m List.mem_cons_self), hih]
    rfl

end Quantities.Text.Canonical
