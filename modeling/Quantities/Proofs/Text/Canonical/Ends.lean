import Quantities.Proofs.Text.Canonical.Composed
import Quantities.Text.Blank

/-!
# What normal form C keeps

A property is hereditary if the parts of a character have it with the character, and if every joined
character has it. Normal form C keeps such a property of all characters, and, where every mark has
it, at the two ends of a text: no blank turns up there that was not there before.

* **`Hereditary.composedPoints`**, **`Ends.composedPoints`**: the two general results.
* `hereditary_isValidChar`, `hereditary_not_mem`: to be a character, and to be none of some code
  points, such as the blanks.
-/

namespace Quantities.Text.Canonical

variable {P : Nat → Prop} {base k m n : Nat} {marks ms ns ps : List Nat}

/-! ## Properties of all characters -/

/-- A property that the parts of a character have with it, and that every joined character has. -/
structure Hereditary (P : Nat → Prop) : Prop where
  parts : ∀ {n ps}, P n → parts? n = some ps → ∀ p ∈ ps, P p
  joined : ∀ {a b j}, join? a b = some j → P j

theorem Hereditary.expand (hP : Hereditary P) :
    ∀ (k : Nat) {n : Nat}, P n → ∀ m ∈ expand k n, P m
  | 0, n, hn => by simpa [Canonical.expand] using hn
  | k + 1, n, hn => by
    cases hparts : parts? n with
    | none =>
      rw [expand_of_parts?_eq_none hparts]
      simpa using hn
    | some ps =>
      rw [expand_of_parts? hparts]
      intro m hm
      obtain ⟨p, hp, hm⟩ := List.mem_flatMap.mp hm
      exact hP.expand k (hP.parts hn hparts p hp) m hm

theorem Hereditary.decompose (hP : Hereditary P) (h : ∀ n ∈ ns, P n) :
    ∀ m ∈ decompose ns, P m := by
  intro m hm
  obtain ⟨n, hn, hm⟩ := List.mem_flatMap.mp hm
  exact hP.expand 4 (h n hn) m hm

theorem Hereditary.composeFrom (hP : Hereditary P) (base : Nat) (marks ns : List Nat)
    (hbase : P base) (hmarks : ∀ m ∈ marks, P m) (hns : ∀ n ∈ ns, P n) :
    ∀ m ∈ composeFrom base marks ns, P m := by
  have hreverse : ∀ {ms : List Nat}, (∀ m ∈ ms, P m) → ∀ m ∈ ms.reverse, P m :=
    fun h m hm => h m (List.mem_reverse.mp hm)
  fun_induction Canonical.composeFrom base marks ns with
  | case1 base marks => exact List.forall_mem_cons.mpr ⟨hbase, hreverse hmarks⟩
  | case2 base marks n ns joined hjoin ih =>
    exact ih (hP.joined (next_of_join hjoin).2) hmarks (List.forall_mem_cons.mp hns).2
  | case3 base marks n ns hjoin hn ih =>
    obtain ⟨hn', hns'⟩ := List.forall_mem_cons.mp hns
    refine List.forall_mem_append.mpr ⟨?_, ih hn' (List.forall_mem_nil _) hns'⟩
    exact List.forall_mem_cons.mpr ⟨hbase, hreverse hmarks⟩
  | case4 base marks n ns hjoin hn ih =>
    obtain ⟨hn', hns'⟩ := List.forall_mem_cons.mp hns
    exact ih hbase (List.forall_mem_cons.mpr ⟨hn', hmarks⟩) hns'

theorem Hereditary.compose (hP : Hereditary P) :
    ∀ {ns : List Nat}, (∀ n ∈ ns, P n) → ∀ m ∈ compose ns, P m
  | [], h => h
  | n :: ns, h => by
    obtain ⟨hn, hns⟩ := List.forall_mem_cons.mp h
    unfold Canonical.compose
    split
    · exact hP.composeFrom n [] ns hn (List.forall_mem_nil P) hns
    · exact List.forall_mem_cons.mpr ⟨hn, hP.compose hns⟩

/-- Composition keeps what is hereditary. -/
theorem Hereditary.composedPoints (hP : Hereditary P) (h : ∀ n ∈ ns, P n) :
    ∀ m ∈ composedPoints ns, P m :=
  hP.compose fun n hn => hP.decompose h n (mem_order.mp hn)

/-! ## The ends of a text -/

/-- The first and the last character, if there are any, have the property. -/
structure Ends (P : Nat → Prop) (ns : List Nat) : Prop where
  first : ∀ k ∈ ns.head?, P k
  last : ∀ k ∈ ns.getLast?, P k

theorem entries_ne_nil (h : (n, ps) ∈ entries) : ps ≠ [] := by
  rcases List.mem_append.mp h with h | h
  · obtain ⟨e, -, he⟩ := List.mem_map.mp h
    obtain ⟨-, rfl⟩ := Prod.mk.inj he
    exact List.cons_ne_nil _ _
  · obtain ⟨r, -, h⟩ := List.mem_flatMap.mp h
    obtain ⟨t, -, ht⟩ := List.mem_map.mp h
    obtain ⟨-, rfl⟩ := Prod.mk.inj ht
    exact List.cons_ne_nil _ _

theorem parts_ne_nil (h : parts? n = some ps) : ps ≠ [] := by
  cases hn : isSyllable n with
  | true =>
    rw [parts?_of_isSyllable hn] at h
    rw [← Option.some.inj h, syllableParts]
    split <;> exact List.cons_ne_nil _ _
  | false => exact entries_ne_nil (mem_entries hn h)

theorem expand_ne_nil : ∀ (k n : Nat), expand k n ≠ []
  | 0, n => List.cons_ne_nil n []
  | k + 1, n => by
    cases hparts : parts? n with
    | none =>
      rw [expand_of_parts?_eq_none hparts]
      exact List.cons_ne_nil n []
    | some ps =>
      obtain ⟨p, ps, rfl⟩ := List.exists_cons_of_ne_nil (parts_ne_nil hparts)
      rw [expand_of_parts? hparts, List.flatMap_cons]
      exact List.append_ne_nil_of_left_ne_nil (expand_ne_nil k p) _

theorem Ends.decompose (hP : Hereditary P) (h : Ends P ns) : Ends P (decompose ns) := by
  refine ⟨?_, ?_⟩
  · cases ns with
    | nil => exact nofun
    | cons n ns =>
      rw [decompose_cons, List.head?_append_of_ne_nil _ (expand_ne_nil 4 n)]
      exact fun k hk => hP.expand 4 (h.first n rfl) k (List.mem_of_head? hk)
  · rcases List.eq_nil_or_concat ns with rfl | ⟨ns, n, rfl⟩
    · exact nofun
    · rw [List.concat_eq_append, decompose_append]
      have hn : Canonical.decompose [n] = Canonical.expand 4 n := by
        rw [decompose_cons]
        exact List.append_nil _
      rw [hn, List.getLast?_append_of_ne_nil _ (expand_ne_nil 4 n)]
      exact fun k hk => hP.expand 4 (h.last n (by simp)) k (List.mem_of_getLast? hk)

theorem first_insertMark (hmark : ∀ n, combiningClass n ≠ 0 → P n) (hn : P n) :
    ∀ k ∈ (insertMark n ms).head?, P k := by
  cases ms with
  | nil => simpa [insertMark] using hn
  | cons m ms =>
    by_cases hp : Passes n m
    · rw [insertMark_of_passes hp]
      simpa using hmark m hp.1
    · rw [insertMark_of_not_passes hp]
      simpa using hn

theorem insertMark_ne_nil (n : Nat) (ms : List Nat) : insertMark n ms ≠ [] :=
  List.ne_nil_of_mem (mem_insertMark.mpr (Or.inl rfl))

theorem last_insertMark (hmark : ∀ n, combiningClass n ≠ 0 → P n) :
    ∀ {ms : List Nat}, ms ≠ [] → (∀ k ∈ ms.getLast?, P k) → ∀ k ∈ (insertMark n ms).getLast?, P k
  | m :: ms, _, h => by
    by_cases hp : Passes n m
    · rw [insertMark_of_passes hp, ← List.singleton_append,
        List.getLast?_append_of_ne_nil _ (insertMark_ne_nil n ms)]
      cases ms with
      | nil => simpa [insertMark] using hmark n (by have := hp.2; omega)
      | cons k ms => exact last_insertMark hmark (List.cons_ne_nil k ms) h
    · rw [insertMark_of_not_passes hp]
      exact h

theorem first_order (hmark : ∀ n, combiningClass n ≠ 0 → P n) (h : ∀ k ∈ ns.head?, P k) :
    ∀ k ∈ (order ns).head?, P k := by
  cases ns with
  | nil => exact nofun
  | cons n ns => exact first_insertMark hmark (h n rfl)

theorem last_order (hmark : ∀ n, combiningClass n ≠ 0 → P n) :
    ∀ {ns : List Nat}, (∀ k ∈ ns.getLast?, P k) → ∀ k ∈ (order ns).getLast?, P k
  | [], h => h
  | [_], h => h
  | _ :: m :: _, h => last_insertMark hmark (insertMark_ne_nil m _) (last_order hmark h)

theorem first_composeFrom (hP : Hereditary P) (base : Nat) (marks ns : List Nat) (h : P base) :
    ∀ k ∈ (composeFrom base marks ns).head?, P k := by
  fun_induction composeFrom base marks ns with
  | case1 base marks => simpa using h
  | case2 base marks n ns joined hjoin ih => exact ih (hP.joined (next_of_join hjoin).2)
  | case3 base marks n ns hjoin hn ih => simpa using h
  | case4 base marks n ns hjoin hn ih => exact ih h

theorem composeFrom_ne_nil (base : Nat) (marks ns : List Nat) : composeFrom base marks ns ≠ [] := by
  fun_induction composeFrom base marks ns with
  | case1 base marks => exact List.cons_ne_nil _ _
  | case2 base marks n ns joined hjoin ih => exact ih
  | case3 base marks n ns hjoin hn ih => simp
  | case4 base marks n ns hjoin hn ih => exact ih

theorem last_append (ms : List Nat) (h : k ∈ ns.getLast?) : k ∈ (ms ++ ns).getLast? := by
  rw [List.getLast?_append, Option.mem_def.mp h]
  rfl

/-- The last character of a base with its waiting marks and the rest. -/
theorem last_cons_append (h : k ∈ (base :: (marks.reverse ++ ns)).getLast?) :
    k = base ∨ k ∈ marks ∨ k ∈ ns.getLast? := by
  rcases List.eq_nil_or_concat ns with rfl | ⟨ns, n, rfl⟩
  · rw [List.append_nil] at h
    rcases List.mem_cons.mp (List.mem_of_getLast? h) with rfl | h
    · exact Or.inl rfl
    · exact Or.inr (Or.inl (List.mem_reverse.mp h))
  · rw [List.concat_eq_append, ← List.append_assoc, ← List.cons_append, List.getLast?_concat] at h
    simpa using Or.inr (Or.inr h)

theorem last_composeFrom (hP : Hereditary P) (hmark : ∀ n, combiningClass n ≠ 0 → P n)
    (base : Nat) (marks ns : List Nat)
    (hmarks : ∀ m ∈ marks, P m) (h : ∀ k ∈ (base :: (marks.reverse ++ ns)).getLast?, P k) :
    ∀ k ∈ (composeFrom base marks ns).getLast?, P k := by
  fun_induction composeFrom base marks ns with
  | case1 base marks => simpa using h
  | case2 base marks n ns joined hjoin ih =>
    refine ih hmarks fun k hk => ?_
    rcases last_cons_append hk with rfl | hk | hk
    · exact hP.joined (next_of_join hjoin).2
    · exact hmarks k hk
    · have hk' := last_append (base :: (marks.reverse ++ [n])) hk
      rw [List.cons_append, List.append_assoc] at hk'
      exact h k hk'
  | case3 base marks n ns hjoin hn ih =>
    rw [List.getLast?_append_of_ne_nil _ (composeFrom_ne_nil n [] ns)]
    refine ih (List.forall_mem_nil P) fun k hk => h k ?_
    rw [← List.cons_append, List.getLast?_append_of_ne_nil _ (List.cons_ne_nil n ns)]
    exact hk
  | case4 base marks n ns hjoin hn ih =>
    refine ih (List.forall_mem_cons.mpr ⟨hmark n hn, hmarks⟩) fun k hk => h k ?_
    rw [List.reverse_cons, List.append_assoc] at hk
    exact hk

theorem first_compose (hP : Hereditary P) (h : ∀ k ∈ ns.head?, P k) :
    ∀ k ∈ (compose ns).head?, P k := by
  cases ns with
  | nil => exact nofun
  | cons n ns =>
    unfold compose
    split
    · exact first_composeFrom hP n [] ns (h n rfl)
    · exact h

theorem compose_cons_ne_nil (n : Nat) (ns : List Nat) : compose (n :: ns) ≠ [] := by
  unfold compose
  split
  · exact composeFrom_ne_nil n [] ns
  · exact List.cons_ne_nil n _

theorem last_compose (hP : Hereditary P) (hmark : ∀ n, combiningClass n ≠ 0 → P n) :
    ∀ {ns : List Nat}, (∀ k ∈ ns.getLast?, P k) → ∀ k ∈ (compose ns).getLast?, P k
  | [], h => h
  | n :: ns, h => by
    unfold compose
    split
    · exact last_composeFrom hP hmark n [] ns (List.forall_mem_nil P) h
    cases ns with
    | nil => exact h
    | cons m ns =>
      rw [← List.singleton_append, List.getLast?_append_of_ne_nil _ (compose_cons_ne_nil m ns)]
      exact last_compose hP hmark h

/-- **Composition keeps what is hereditary at both ends**, if every mark has it. -/
theorem Ends.composedPoints (hP : Hereditary P) (hmark : ∀ n, combiningClass n ≠ 0 → P n)
    (h : Ends P ns) : Ends P (composedPoints ns) := by
  have h := h.decompose hP
  exact ⟨first_compose hP (first_order hmark h.first),
    last_compose hP hmark (last_order hmark h.last)⟩

/-- Something is left of every text. -/
theorem composedPoints_ne_nil (h : ns ≠ []) : composedPoints ns ≠ [] := by
  obtain ⟨n, ns, rfl⟩ := List.exists_cons_of_ne_nil h
  obtain ⟨m, hm⟩ := List.exists_mem_of_ne_nil _ (expand_ne_nil 4 n)
  have hmem : m ∈ order (decompose (n :: ns)) :=
    mem_order.mpr (List.mem_flatMap.mpr ⟨n, List.mem_cons_self, hm⟩)
  obtain ⟨k, ks, hks⟩ := List.exists_cons_of_ne_nil (List.ne_nil_of_mem hmem)
  rw [composedPoints, hks]
  exact compose_cons_ne_nil k ks

/-! ## What is hereditary -/

/-- Every property of the syllables and the listed composites is one of all joined characters. -/
theorem joined_of_forall (hs : ∀ n, isSyllable n = true → P n) (hc : ∀ e ∈ composites, P e.1)
    {a b j : Nat} (h : join? a b = some j) : P j := by
  unfold join? at h
  split at h
  · rename_i s hjoin
    obtain rfl := Option.some.inj h
    exact hs s (syllableParts_of_joinSyllable? hjoin).1
  · obtain ⟨e, he, rfl⟩ := Option.map_eq_some_iff.mp h
    exact hc e (List.mem_of_find?_eq_some he)

/-- Every property of the letters that the entries hand on to the parts is handed on by all
characters. -/
theorem parts_of_forall (hl : ∀ n, IsLetter n → P n)
    (he : ∀ e ∈ entries, P e.1 → ∀ p ∈ e.2, P p) (hn : P n) (h : parts? n = some ps) :
    ∀ p ∈ ps, P p := by
  intro p hp
  cases hs : isSyllable n with
  | true =>
    rw [parts?_of_isSyllable hs] at h
    exact hl p (isLetter_of_mem_syllableParts hs (Option.some.inj h ▸ hp))
  | false => exact he _ (mem_entries hs h) hn p hp

theorem isSyllable_iff : isSyllable n = true ↔ 0xAC00 ≤ n ∧ n < 0xD7A4 := by
  unfold isSyllable syllableBase leadCount vowelCount trailCount
  simp

theorem entries_isValidChar : ∀ e ∈ entries, ∀ p ∈ e.2, p.isValidChar := by decide +kernel

theorem composites_isValidChar : ∀ e ∈ composites, e.1.isValidChar := by decide +kernel

/-- The code points that come out are those of characters. -/
theorem hereditary_isValidChar : Hereditary Nat.isValidChar where
  parts := parts_of_forall (fun n hn => Or.inl (by unfold IsLetter at hn; omega))
    fun e he _ => entries_isValidChar e he
  joined := joined_of_forall (P := Nat.isValidChar)
    (fun n hn => Or.inl ((isSyllable_iff.mp hn).2.trans (by decide))) composites_isValidChar

/-- The code points of the blanks. -/
def blanks : List Nat :=
  List.range' 0x09 5 ++ List.range' 0x1C 5 ++ [0x85, 0xA0, 0x1680] ++ List.range' 0x2000 11 ++
    [0x2028, 0x2029, 0x202F, 0x205F, 0x3000]

theorem mem_blanks {c : Char} : c.toNat ∈ blanks ↔ isBlank c = true := by
  unfold isBlank
  simp only [blanks, List.mem_append, List.mem_range'_1, List.mem_cons, List.not_mem_nil, or_false,
    Bool.or_eq_true, Bool.and_eq_true, decide_eq_true_eq, beq_iff_eq]
  omega

/-- Is the character with the code point no blank? -/
def Ink (n : Nat) : Prop := n ∉ blanks

theorem ink_iff {c : Char} : Ink c.toNat ↔ isBlank c = false := by
  rw [Ink, mem_blanks, Bool.not_eq_true]

/-- To be none of some code points is hereditary if only these are replaced by any of them, and if
none of them is joined. -/
theorem hereditary_not_mem {ks : List Nat}
    (hentries : (let m := mask ks
      entries.all fun e => m.testBit e.1 || e.2.all fun p => !m.testBit p) = true)
    (hcomposites : (let m := mask ks
      composites.all fun e => !m.testBit e.1) = true)
    (hletter : ∀ k ∈ ks, ¬ IsLetter k) (hsyllable : ∀ k ∈ ks, isSyllable k = false) :
    Hereditary fun n => n ∉ ks where
  parts := by
    refine parts_of_forall (fun n hn h => hletter n h hn) fun e he hn p hp hmem => ?_
    have hall := List.all_eq_true.mp hentries e he
    rw [Bool.or_eq_true, List.all_eq_true, testBit_mask] at hall
    have hp := hall.resolve_left hn p hp
    rw [testBit_mask.mpr hmem] at hp
    exact nomatch hp
  joined := by
    refine joined_of_forall (P := fun n => n ∉ ks) (fun n hn h => ?_) fun e he hmem => ?_
    · rw [hsyllable n h] at hn
      exact nomatch hn
    · have hall := List.all_eq_true.mp hcomposites e he
      rw [testBit_mask.mpr hmem] at hall
      exact nomatch hall

/-- No character becomes a blank that was none. -/
theorem hereditary_ink : Hereditary Ink :=
  hereditary_not_mem (by decide +kernel) (by decide +kernel) (by unfold IsLetter; decide +kernel)
    (by decide +kernel)

/-- No blank is a mark. -/
theorem ink_of_combiningClass (h : combiningClass n ≠ 0) : Ink n := by
  have hblanks : ∀ m ∈ blanks, combiningClass m = 0 := by decide +kernel
  exact fun hn => h (hblanks n hn)

end Quantities.Text.Canonical
