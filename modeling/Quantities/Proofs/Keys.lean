import Mathlib.Data.List.Nodup

/-!
# Lists of keys and values

A table is a list of pairs, searched from its start. Where no key stands twice in it, every pair is
found (`lookup_of_mem`), in whatever order they stand (`lookup_perm`); a new key at the end hides
none (`lookup_append_of_some`) and stands there once (`nodup_concat`).
-/

namespace Quantities.Keys

variable {κ β : Type} [BEq κ] [LawfulBEq κ] {k : κ} {x : β} {l : List (κ × β)}

theorem mem_of_lookup (h : l.lookup k = some x) : (k, x) ∈ l := by
  obtain ⟨l₁, l₂, rfl, -⟩ := List.lookup_eq_some_iff.mp h
  simp

theorem lookup_of_mem :
    ∀ {l : List (κ × β)}, (l.map Prod.fst).Nodup → (k, x) ∈ l → l.lookup k = some x
  | (j, y) :: l, hnodup, h => by
    rw [List.map_cons, List.nodup_cons] at hnodup
    rcases List.mem_cons.mp h with heq | hmem
    · obtain ⟨rfl, rfl⟩ := Prod.mk.inj heq
      exact List.lookup_cons_self
    · have hne : k ≠ j := by
        rintro rfl
        exact hnodup.1 (List.mem_map.mpr ⟨_, hmem, rfl⟩)
      rw [List.lookup_cons, beq_eq_false_iff_ne.mpr hne]
      exact lookup_of_mem hnodup.2 hmem

theorem lookup_eq_none : l.lookup k = none ↔ k ∉ l.map Prod.fst := by
  rw [List.lookup_eq_none_iff, List.mem_map]
  constructor
  · rintro h ⟨p, hp, rfl⟩
    simpa using h p hp
  · intro h p hp
    exact bne_iff_ne.mpr fun heq => h ⟨p, hp, heq.symm⟩

theorem isSome_lookup : (l.lookup k).isSome ↔ k ∈ l.map Prod.fst := by
  rw [Option.isSome_iff_ne_none, ne_eq, lookup_eq_none, not_not]

omit [LawfulBEq κ] in
theorem lookup_append_of_some {m : List (κ × β)} (h : l.lookup k = some x) :
    (l ++ m).lookup k = some x := by
  rw [List.lookup_append, h, Option.some_or]

theorem nodup_concat (h : (l.map Prod.fst).Nodup) (hk : l.lookup k = none) :
    ((l ++ [(k, x)]).map Prod.fst).Nodup := by
  rw [List.map_append, List.nodup_append]
  refine ⟨h, List.nodup_singleton k, fun j hj j' hj' => ?_⟩
  obtain rfl : j' = k := by simpa using hj'
  exact fun heq => lookup_eq_none.mp hk (heq ▸ hj)

/-- Where no key stands twice, the order of the pairs makes no difference. -/
theorem lookup_perm {m : List (κ × β)} (h : l.Perm m) (hl : (l.map Prod.fst).Nodup) (k : κ) :
    l.lookup k = m.lookup k := by
  have hm : (m.map Prod.fst).Nodup := (h.map Prod.fst).nodup_iff.mp hl
  cases hk : m.lookup k with
  | none =>
    rw [lookup_eq_none, (h.map Prod.fst).mem_iff]
    exact lookup_eq_none.mp hk
  | some x => exact lookup_of_mem hl (h.mem_iff.mpr (mem_of_lookup hk))

end Quantities.Keys
